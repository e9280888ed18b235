import CheckinService.Services.Hashing

namespace CheckinService

def isMarkup (c : Char) : Bool := c ∈ ['<', '>', '"', '\'']

def cleanedText (value : String) : String :=
  Py.strip (String.ofList (value.toList.filter fun c => !isControlChar c))

theorem sanitizeText_eq (value : String) (maxLen : Nat) :
    sanitizeText (some value) maxLen =
      if cleanedText value = "" then none
      else some (Py.take maxLen (htmlEscape (cleanedText value))) := rfl

theorem htmlEscapeChar_ne_nil (c : Char) : htmlEscapeChar c ≠ [] := by
  unfold htmlEscapeChar
  split <;> simp

theorem entity_plain {c d : Char} {entity : List Char}
    (hall : (entity.all fun d => !isMarkup d && !isControlChar d) = true) (h : d ∈ entity) :
    isMarkup d = false ∧ (isControlChar c = false → isControlChar d = false) := by
  have hd := List.all_eq_true.mp hall d h
  simp only [Bool.and_eq_true, Bool.not_eq_true'] at hd
  exact ⟨hd.1, fun _ => hd.2⟩

theorem htmlEscapeChar_plain {c d : Char} (h : d ∈ htmlEscapeChar c) :
    isMarkup d = false ∧ (isControlChar c = false → isControlChar d = false) := by
  unfold htmlEscapeChar at h
  split at h
  case h_6 hamp hlt hgt hquot hapos =>
    rw [List.mem_singleton.mp h]
    refine ⟨?_, id⟩
    simp only [isMarkup, List.mem_cons, List.not_mem_nil, or_false, decide_eq_false_iff_not]
    rintro (rfl | rfl | rfl | rfl)
    · exact hlt rfl
    · exact hgt rfl
    · exact hquot rfl
    · exact hapos rfl
  all_goals
    refine entity_plain ?_ h
    decide

theorem htmlEscape_toList (s : String) :
    (htmlEscape s).toList = s.toList.flatMap htmlEscapeChar := String.toList_ofList

theorem htmlEscape_eq_empty {s : String} : htmlEscape s = "" ↔ s = "" := by
  rw [← String.toList_eq_nil_iff, ← String.toList_eq_nil_iff, htmlEscape_toList,
    List.flatMap_eq_nil_iff]
  constructor
  · intro h
    rw [List.eq_nil_iff_forall_not_mem]
    exact fun c hc => htmlEscapeChar_ne_nil c (h c hc)
  · intro h c hc
    rw [h] at hc
    cases hc

theorem cleanedText_eq_empty {value : String} :
    cleanedText value = "" ↔
      ∀ c ∈ value.toList, isControlChar c = false → Py.isSpace c = true := by
  rw [← String.toList_inj, cleanedText, Py.strip, String.toList_ofList, String.toList_ofList]
  refine Py.trim_eq_nil.trans ?_
  simp only [List.mem_filter, Bool.not_eq_true', and_imp]

theorem cleanedText_no_control {value : String} {c : Char} (h : c ∈ (cleanedText value).toList) :
    isControlChar c = false := by
  rw [cleanedText, Py.strip, String.toList_ofList, String.toList_ofList] at h
  have hkept := (List.mem_filter.mp (Py.mem_of_mem_trim h)).2
  simpa using hkept

theorem sanitizeText_eq_none {value : String} {maxLen : Nat} :
    sanitizeText (some value) maxLen = none ↔
      ∀ c ∈ value.toList, isControlChar c = false → Py.isSpace c = true := by
  rw [sanitizeText_eq, ← cleanedText_eq_empty]
  split <;> simp [*]

theorem sanitizeText_eq_some {value text : String} {maxLen : Nat}
    (h : sanitizeText (some value) maxLen = some text) :
    cleanedText value ≠ "" ∧ text = Py.take maxLen (htmlEscape (cleanedText value)) := by
  rw [sanitizeText_eq] at h
  split at h
  · cases h
  · rename_i hne
    exact ⟨hne, (Option.some.inj h).symm⟩

theorem sanitizeText_length_le {value : Option String} {text : String} {maxLen : Nat}
    (h : sanitizeText value maxLen = some text) : text.length ≤ maxLen := by
  cases value with
  | none => cases h
  | some value =>
    obtain ⟨-, rfl⟩ := sanitizeText_eq_some h
    exact Py.length_take_le maxLen _

/-- Whatever the text and the cut, nothing comes of a blank text, and of every other a text that
is not empty, fits, and carries neither markup nor control characters. -/
theorem sanitizeText_safe (value : String) (maxLen : Nat) (hlen : 1 ≤ maxLen) :
    (sanitizeText (some value) maxLen = none ↔
      ∀ c ∈ value.toList, isControlChar c = false → Py.isSpace c = true) ∧
    ∀ text, sanitizeText (some value) maxLen = some text →
      text ≠ "" ∧ text.length ≤ maxLen ∧
        ∀ c ∈ text.toList, isMarkup c = false ∧ isControlChar c = false := by
  refine ⟨sanitizeText_eq_none, ?_⟩
  intro text htext
  obtain ⟨hne, rfl⟩ := sanitizeText_eq_some htext
  refine ⟨?_, Py.length_take_le maxLen _, ?_⟩
  · have hescaped := htmlEscape_eq_empty.not.mpr hne
    rw [ne_eq, ← String.toList_inj, Py.take, String.toList_ofList]
    rw [← String.toList_inj] at hescaped
    simp only [String.toList_empty, List.take_eq_nil_iff, not_or] at hescaped ⊢
    exact ⟨by omega, hescaped⟩
  · intro d hd
    rw [Py.take, String.toList_ofList, htmlEscape_toList] at hd
    obtain ⟨c, hc, hd⟩ := List.mem_flatMap.mp (List.mem_of_mem_take hd)
    obtain ⟨hmarkup, hcontrol⟩ := htmlEscapeChar_plain hd
    exact ⟨hmarkup, hcontrol (cleanedText_no_control hc)⟩

theorem sanitizeText_safe_sample :
    sanitizeText (some "<b>") 3 = some "&lt" ∧
      ∀ c ∈ ("&lt" : String).toList, isMarkup c = false ∧ isControlChar c = false := by
  have hcut : sanitizeText (some "<b>") 3 = some "&lt" := by decide +kernel
  exact ⟨hcut, ((sanitizeText_safe "<b>" 3 (by decide)).2 "&lt" hcut).2.2⟩

end CheckinService
