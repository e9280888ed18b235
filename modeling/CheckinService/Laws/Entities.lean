import CheckinService.Laws.Sanitizing
import CheckinService.Lib.Escaping

namespace CheckinService

def entities : List (List Char) :=
  ["&amp;".toList, "&lt;".toList, "&gt;".toList, "&quot;".toList, "&#x27;".toList]

theorem htmlEscapeChar_cases (c : Char) :
    htmlEscapeChar c = [c] ∧ c ≠ '&' ∨ htmlEscapeChar c ∈ entities := by
  unfold htmlEscapeChar
  split
  case h_6 hamp _ _ _ _ => exact Or.inl ⟨rfl, hamp⟩
  all_goals
    refine Or.inr ?_
    decide

theorem entities_eq : entities = ['&', '<', '>', '"', '\''].map htmlEscapeChar := rfl

theorem entity_word : ∀ w ∈ entities, w = '&' :: w.tail ∧ '&' ∉ w.tail := by decide

theorem entity_instant : ∀ w ∈ entities, ∀ w' ∈ entities, w <+: w' → w = w' := by decide

theorem htmlEscapeChar_word (c : Char) :
    htmlEscapeChar c = [c] ∧ c ≠ '&' ∨ ∃ body, htmlEscapeChar c = '&' :: body ∧ '&' ∉ body :=
  (htmlEscapeChar_cases c).imp_right fun h => ⟨_, entity_word _ h⟩

theorem htmlEscapeChar_instant (c d : Char) (h : htmlEscapeChar c <+: htmlEscapeChar d) :
    htmlEscapeChar c = htmlEscapeChar d := by
  rcases htmlEscapeChar_cases c with ⟨hc, hplain⟩ | hc
  · rw [hc] at h ⊢
    rcases htmlEscapeChar_word d with ⟨hd, -⟩ | ⟨body, hd, -⟩
    · rw [hd] at h ⊢
      exact h.eq_of_length rfl
    · rw [hd] at h
      exact absurd (List.cons_prefix_cons.mp h).1 hplain
  · rcases htmlEscapeChar_cases d with ⟨hd, hplain⟩ | hd
    · rw [hd, (entity_word _ hc).1] at h
      exact absurd (List.cons_prefix_cons.mp h).1.symm hplain
    · exact entity_instant _ hc _ hd h

def html : Escaping Char where
  mark := '&'
  write := htmlEscapeChar
  word := htmlEscapeChar_word
  instant := htmlEscapeChar_instant

def htmlUnescape : List Char → List Char
  | '&' :: 'a' :: 'm' :: 'p' :: ';' :: rest => '&' :: htmlUnescape rest
  | '&' :: 'l' :: 't' :: ';' :: rest => '<' :: htmlUnescape rest
  | '&' :: 'g' :: 't' :: ';' :: rest => '>' :: htmlUnescape rest
  | '&' :: 'q' :: 'u' :: 'o' :: 't' :: ';' :: rest => '"' :: htmlUnescape rest
  | '&' :: '#' :: 'x' :: '2' :: '7' :: ';' :: rest => '\'' :: htmlUnescape rest
  | c :: rest => c :: htmlUnescape rest
  | [] => []

theorem htmlUnescape_plain {c : Char} (h : c ≠ '&') (rest : List Char) :
    htmlUnescape (c :: rest) = c :: htmlUnescape rest := by
  conv_lhs => unfold htmlUnescape
  split
  case h_6 heq =>
    cases heq
    rfl
  case h_7 heq => cases heq
  all_goals
    rename_i heq
    exact absurd (List.cons.inj heq).1 h

theorem htmlUnescape_write (c : Char) (rest : List Char) :
    htmlUnescape (htmlEscapeChar c ++ rest) = c :: htmlUnescape rest := by
  unfold htmlEscapeChar
  split
  case h_6 hamp _ _ _ _ => exact htmlUnescape_plain hamp rest
  all_goals simp [htmlUnescape]

def htmlReader : html.Reader where
  read := htmlUnescape
  read_nil := rfl
  read_write := htmlUnescape_write

def WholeEntities (text : String) : Prop :=
  ∀ rest, '&' :: rest <:+ text.toList → ∃ entity ∈ entities, entity <+: '&' :: rest

def ReadsBack (r : html.Reader) (value : String) (maxLen : Nat) : Prop :=
  ∀ text, sanitizeText (some value) maxLen = some text →
    WholeEntities text ∧ r.read text.toList <+: (cleanedText value).toList

def CutsBetween (value : String) (maxLen : Nat) : Prop :=
  html.Clean (cleanedText value).toList maxLen

instance (value : String) (maxLen : Nat) : Decidable (CutsBetween value maxLen) :=
  inferInstanceAs (Decidable (html.Clean _ _))

theorem wholeEntities_iff {text : String} : WholeEntities text ↔ html.Whole text.toList := by
  refine forall_congr' fun rest => imp_congr_right fun _ => ?_
  constructor
  · rintro ⟨entity, hentity, h⟩
    rw [entities_eq] at hentity
    obtain ⟨c, -, rfl⟩ := List.mem_map.mp hentity
    exact ⟨c, h⟩
  · rintro ⟨c, h⟩
    rcases htmlEscapeChar_cases c with ⟨hc, hplain⟩ | hc
    · change htmlEscapeChar c <+: '&' :: rest at h
      rw [hc] at h
      exact absurd (List.cons_prefix_cons.mp h).1 hplain
    · exact ⟨_, hc, h⟩

theorem take_htmlEscape (value : String) (maxLen : Nat) :
    (Py.take maxLen (htmlEscape value)).toList = (html.text value.toList).take maxLen := by
  rw [Py.take, String.toList_ofList, htmlEscape_toList]
  rfl

/-- A sanitized text keeps its references whole exactly when the cut takes none apart. -/
theorem readsBack_iff_cutsBetween (r : html.Reader) (value : String) (maxLen : Nat) :
    ReadsBack r value maxLen ↔ CutsBetween value maxLen := by
  constructor
  · intro h
    by_cases hblank : cleanedText value = ""
    · refine Or.inl ?_
      rw [hblank]
      exact Nat.zero_le maxLen
    · have hwhole := (h _ (by rw [sanitizeText_eq, if_neg hblank])).1
      rw [wholeEntities_iff, take_htmlEscape] at hwhole
      exact Escaping.whole_take_iff.mp hwhole
  · intro hclean text htext
    obtain ⟨-, rfl⟩ := sanitizeText_eq_some htext
    rw [wholeEntities_iff, take_htmlEscape]
    exact ⟨Escaping.whole_take_iff.mpr hclean, r.read_take hclean⟩

example : CutsBetween "<b>" 4 ∧ ¬ CutsBetween "<b>" 3 := by decide +kernel

def sampleLongTitle : List Char := List.replicate 199 'a' ++ ['&']

theorem readsBack_fails_ampersand :
    ¬ ∀ (r : html.Reader) (value : String) (maxLen : Nat), 6 ≤ maxLen →
      ReadsBack r value maxLen := by
  intro h
  have hcleaned : cleanedText (String.ofList sampleLongTitle) = String.ofList sampleLongTitle := by
    rw [cleanedText, Py.strip, String.toList_ofList, String.toList_ofList]
    exact congrArg String.ofList (by decide +kernel)
  have hne : String.ofList sampleLongTitle ≠ "" := by
    rw [ne_eq, ← String.toList_eq_nil_iff, String.toList_ofList]
    exact List.concat_ne_nil _ _
  have hcut : (html.text sampleLongTitle).take 200 = sampleLongTitle := by decide +kernel
  have hwhole := (h htmlReader (String.ofList sampleLongTitle) 200 (by omega) _
    (by rw [sanitizeText_eq, hcleaned, if_neg hne])).1
  rw [WholeEntities, take_htmlEscape, String.toList_ofList, hcut] at hwhole
  obtain ⟨entity, hentity, hprefix⟩ := hwhole [] (List.suffix_append _ _)
  have hlong : ∀ entity ∈ entities, 1 < entity.length := by decide
  exact absurd hprefix.length_le (not_le.mpr (hlong entity hentity))

end CheckinService
