import CheckinService.Routers.Events

namespace CheckinService

structure Event.Same (e e' : Event) : Prop where
  id : e'.id = e.id
  schoolId : e'.schoolId = e.schoolId
  ownerUserId : e'.ownerUserId = e.ownerUserId
  groupId : e'.groupId = e.groupId
  groupKind : e'.groupKind = e.groupKind
  idempotencyKey : e'.idempotencyKey = e.idempotencyKey

theorem Event.Same.refl (e : Event) : Event.Same e e := ⟨rfl, rfl, rfl, rfl, rfl, rfl⟩

theorem Event.Same.trans {e e' e'' : Event} (h : Event.Same e e') (h' : Event.Same e' e'') :
    Event.Same e e'' where
  id := h'.id.trans h.id
  schoolId := h'.schoolId.trans h.schoolId
  ownerUserId := h'.ownerUserId.trans h.ownerUserId
  groupId := h'.groupId.trans h.groupId
  groupKind := h'.groupKind.trans h.groupKind
  idempotencyKey := h'.idempotencyKey.trans h.idempotencyKey

/-- A supplied field leaves its sanitized value in its column, and the others leave what was
there. -/
structure Patches (payload : EventUpdate) (old new : Event) : Prop where
  same : Event.Same old new
  eventType : new.eventType = old.eventType
  organizerRole : new.organizerRole = old.organizerRole
  title : (payload.title.map (sanitizeText · 200)).getD (some old.title) = some new.title
  descriptionSn : (payload.description.map (sanitizeText · 5000)).getD old.descriptionSn =
    new.descriptionSn
  locationName : (payload.locationName.map (sanitizeText · 200)).getD old.locationName =
    new.locationName
  latitude : (payload.latitude.map (Option.map Coordinate.ofFloat)).getD old.latitude =
    new.latitude
  longitude : (payload.longitude.map (Option.map Coordinate.ofFloat)).getD old.longitude =
    new.longitude
  geofenceRadiusM : payload.geofenceRadiusM.getD old.geofenceRadiusM = new.geofenceRadiusM
  startTime : (payload.startTime.map (Option.map Datetime.wall)).getD old.startTime =
    new.startTime
  endTime : (payload.endTime.map (Option.map Datetime.wall)).getD old.endTime = new.endTime
  maxCapacity : payload.maxCapacity.getD old.maxCapacity = new.maxCapacity
  checkinMethod : payload.checkinMethod.getD (some old.checkinMethod) = some new.checkinMethod
  status : payload.status.getD (some old.status) = some new.status
  visibility : payload.visibility.getD (some old.visibility) = some new.visibility
  allowNfcCheckin : payload.allowNfcCheckin.getD (some old.allowNfcCheckin) =
    some new.allowNfcCheckin

theorem notNull_eq_ok {f : Field (Option α)} {stored value : α} :
    notNull f stored = .ok value ↔ f.getD (some stored) = some value := by
  cases f with
  | unset => simp [notNull, Field.getD]
  | supplied o => cases o <;> simp [notNull, Field.getD]

theorem notNull_handled {f : Field (Option α)} {stored : α} {e : HTTPException} :
    notNull f stored ≠ .error (.http e) := by
  cases f with
  | unset => nofun
  | supplied o => cases o <;> nofun

theorem sanitizedTitle_eq_ok {title : Option String} {text : String} :
    sanitizedTitle title = .ok text ↔ sanitizeText title 200 = some text := by
  rw [sanitizedTitle]
  split <;> simp [*]

theorem sanitizedTitle_eq_error {title : Option String} {f : Failure} :
    sanitizedTitle title = .error f ↔ sanitizeText title 200 = none ∧ f = .http emptyTitle := by
  rw [sanitizedTitle]
  split <;> simp [*, eq_comm (a := f)]

theorem patchedTitle_eq_ok {payload : EventUpdate} {event : Event} {title : String} :
    patchedTitle payload event = .ok title ↔
      (payload.title.map (sanitizeText · 200)).getD (some event.title) = some title := by
  rw [patchedTitle]
  cases payload.title with
  | unset => simp [Field.map, Field.getD]
  | supplied text => exact sanitizedTitle_eq_ok

theorem Field.getD_map (f : Field α) (convert : α → β) (stored : α) :
    (f.map convert).getD (convert stored) = convert (f.getD stored) := by
  cases f <;> rfl

theorem wall_storedTime (stored : Option ℚ) : (storedTime stored).map Datetime.wall = stored := by
  cases stored <;> rfl

theorem Field.getD_storedTime (f : Field (Option Datetime)) (stored : Option ℚ) :
    (f.getD (storedTime stored)).map Datetime.wall =
      (f.map (Option.map Datetime.wall)).getD stored := by
  have hmap := f.getD_map (Option.map Datetime.wall) (storedTime stored)
  rw [wall_storedTime] at hmap
  exact hmap.symm

theorem patched_patches {payload : EventUpdate} {old new : Event}
    (h : patched payload old = .ok new) :
    endsAfterStart payload old = .ok () ∧ Patches payload old new := by
  obtain ⟨title, htitle, h⟩ := Except.bind_eq_ok.mp h
  obtain ⟨_, htimes, h⟩ := Except.bind_eq_ok.mp h
  obtain ⟨method, hmethod, h⟩ := Except.bind_eq_ok.mp h
  obtain ⟨status, hstatus, h⟩ := Except.bind_eq_ok.mp h
  obtain ⟨visibility, hvisibility, h⟩ := Except.bind_eq_ok.mp h
  obtain ⟨nfc, hnfc, h⟩ := Except.bind_eq_ok.mp h
  cases h
  refine ⟨htimes, ?_⟩
  exact
    { same := ⟨rfl, rfl, rfl, rfl, rfl, rfl⟩
      eventType := rfl
      organizerRole := rfl
      title := patchedTitle_eq_ok.mp htitle
      descriptionSn := by cases payload.description <;> rfl
      locationName := by cases payload.locationName <;> rfl
      latitude := rfl
      longitude := rfl
      geofenceRadiusM := rfl
      startTime := (Field.getD_storedTime _ _).symm
      endTime := (Field.getD_storedTime _ _).symm
      maxCapacity := rfl
      checkinMethod := notNull_eq_ok.mp hmethod
      status := notNull_eq_ok.mp hstatus
      visibility := notNull_eq_ok.mp hvisibility
      allowNfcCheckin := notNull_eq_ok.mp hnfc }

def EventUpdate.newStart (payload : EventUpdate) (event : Event) : Option Datetime :=
  payload.startTime.getD (storedTime event.startTime)

def EventUpdate.newEnd (payload : EventUpdate) (event : Event) : Option Datetime :=
  payload.endTime.getD (storedTime event.endTime)

def EventUpdate.EmptiesTitle (payload : EventUpdate) : Prop :=
  ∃ title, payload.title = .supplied title ∧ sanitizeText title 200 = none

def EventUpdate.MixesTimes (payload : EventUpdate) (event : Event) : Prop :=
  ∃ start end_, payload.newStart event = some start ∧ payload.newEnd event = some end_ ∧
    start.offset.isSome ≠ end_.offset.isSome

def EventUpdate.EndsEarly (payload : EventUpdate) (event : Event) : Prop :=
  ∃ start end_, payload.newStart event = some start ∧ payload.newEnd event = some end_ ∧
    end_.le start = .ok true

def EventUpdate.NullsColumn (payload : EventUpdate) : Prop :=
  payload.checkinMethod = .supplied none ∨ payload.status = .supplied none ∨
    payload.visibility = .supplied none ∨ payload.allowNfcCheckin = .supplied none

def Unhandled (x : Handler α) : Prop := ∃ e, x = .error (.unhandled e)

section

variable {payload : EventUpdate} {event : Event}

theorem unhandled_bind {x : Handler α} {f : α → Handler β} :
    Unhandled (x >>= f) ↔ Unhandled x ∨ ∃ a, x = .ok a ∧ Unhandled (f a) := by
  simp only [Unhandled, Except.bind_eq_error, exists_or]
  apply or_congr_right
  constructor
  · rintro ⟨e, a, hx, hf⟩
    exact ⟨a, hx, e, hf⟩
  · rintro ⟨a, hx, e, hf⟩
    exact ⟨e, a, hx, hf⟩

theorem not_unhandled_ok {a : α} : ¬ Unhandled (.ok a : Handler α) := by
  rintro ⟨e, h⟩
  cases h

theorem unhandled_notNull {f : Field (Option α)} {stored : α} :
    Unhandled (notNull f stored) ↔ f = .supplied none := by
  cases f with
  | unset => simp [notNull, Unhandled]
  | supplied o => cases o <;> simp [notNull, Unhandled]

theorem notNull_bind_unhandled {f : Field (Option α)} {stored : α} {k : α → Handler β}
    {p : Prop} (h : ∀ a, Unhandled (k a) ↔ p) :
    Unhandled (notNull f stored >>= k) ↔ f = .supplied none ∨ p := by
  rw [unhandled_bind, unhandled_notNull]
  cases f with
  | unset => simp [notNull, h]
  | supplied o => cases o <;> simp [notNull, h]

theorem Datetime.le_cases (a b : Datetime) :
    a.offset.isSome ≠ b.offset.isSome ∧ a.le b = .error .typeError ∨
      a.offset.isSome = b.offset.isSome ∧ ∃ early, a.le b = .ok early := by
  rw [Datetime.le]
  cases a.offset <;> cases b.offset <;> simp

theorem endsAfterStart_of_le {start end_ : Datetime} (hstart : payload.newStart event = some start)
    (hend : payload.newEnd event = some end_) :
    endsAfterStart payload event = match end_.le start with
      | .error e => .error (.unhandled e)
      | .ok true => httpError 422 (.text "end_time must be strictly after start_time")
      | .ok false => .ok () := by
  rw [EventUpdate.newStart] at hstart
  rw [EventUpdate.newEnd] at hend
  simp only [endsAfterStart, hstart, hend]
  cases end_.le start with
  | error e => rfl
  | ok early => cases early <;> rfl

theorem endsAfterStart_of_none (h : payload.newStart event = none ∨ payload.newEnd event = none) :
    endsAfterStart payload event = .ok () := by
  rw [EventUpdate.newStart, EventUpdate.newEnd] at h
  rw [endsAfterStart]
  split
  · rename_i hstart hend
    simp [hstart, hend] at h
  · rfl

theorem endsAfterStart_cases (payload : EventUpdate) (event : Event) :
    payload.MixesTimes event ∧ endsAfterStart payload event = .error (.unhandled .typeError) ∨
      ¬ payload.MixesTimes event ∧ payload.EndsEarly event ∧
        endsAfterStart payload event =
          httpError 422 (.text "end_time must be strictly after start_time") ∨
      ¬ payload.MixesTimes event ∧ ¬ payload.EndsEarly event ∧
        endsAfterStart payload event = .ok () := by
  cases hstart : payload.newStart event with
  | none =>
    rw [endsAfterStart_of_none (Or.inl hstart)]
    simp [EventUpdate.MixesTimes, EventUpdate.EndsEarly, hstart]
  | some start =>
    cases hend : payload.newEnd event with
    | none =>
      rw [endsAfterStart_of_none (Or.inr hend)]
      simp [EventUpdate.MixesTimes, EventUpdate.EndsEarly, hend]
    | some end_ =>
      rw [endsAfterStart_of_le hstart hend]
      simp only [EventUpdate.MixesTimes, EventUpdate.EndsEarly, hstart, hend, Option.some.injEq,
        exists_and_left, exists_eq_left', not_not]
      rcases end_.le_cases start with ⟨hmixed, hle⟩ | ⟨halike, early, hle⟩
      · rw [hle]
        exact Or.inl ⟨hmixed.symm, rfl⟩
      · rw [hle]
        cases early with
        | true => exact Or.inr (Or.inl ⟨halike.symm, rfl, rfl⟩)
        | false => exact Or.inr (Or.inr ⟨halike.symm, nofun, rfl⟩)

theorem endsAfterStart_unhandled :
    Unhandled (endsAfterStart payload event) ↔ payload.MixesTimes event := by
  rcases endsAfterStart_cases payload event with ⟨hmixed, h⟩ | ⟨hmixed, -, h⟩ | ⟨hmixed, -, h⟩ <;>
    simp [h, hmixed, Unhandled, httpError]

theorem endsAfterStart_eq_ok :
    endsAfterStart payload event = .ok () ↔
      ¬ payload.MixesTimes event ∧ ¬ payload.EndsEarly event := by
  rcases endsAfterStart_cases payload event with
    ⟨hmixed, h⟩ | ⟨hmixed, hearly, h⟩ | ⟨hmixed, hearly, h⟩ <;> simp [*, httpError]

theorem patchedTitle_isOk :
    (∃ title, patchedTitle payload event = .ok title) ↔ ¬ payload.EmptiesTitle := by
  simp only [patchedTitle_eq_ok, EventUpdate.EmptiesTitle]
  cases payload.title with
  | unset => simp [Field.map, Field.getD]
  | supplied title =>
    simp [Field.map, Field.getD, Option.ne_none_iff_exists']

theorem patchedTitle_handled : ¬ Unhandled (patchedTitle payload event) := by
  rintro ⟨e, h⟩
  rw [patchedTitle] at h
  split at h
  · cases h
  · have := (sanitizedTitle_eq_error.mp h).2
    cases this

theorem patched_http {e : HTTPException} (h : patched payload event = .error (.http e)) :
    payload.EmptiesTitle ∨ ¬ payload.MixesTimes event ∧ payload.EndsEarly event := by
  rcases Except.bind_eq_error.mp h with htitle | ⟨_, -, h⟩
  · left
    by_contra hfull
    obtain ⟨title, hok⟩ := patchedTitle_isOk.mpr hfull
    rw [hok] at htitle
    cases htitle
  rcases Except.bind_eq_error.mp h with htimes | ⟨_, -, h⟩
  · rcases endsAfterStart_cases payload event with
      ⟨-, hends⟩ | ⟨hmixed, hearly, -⟩ | ⟨-, -, hends⟩
    · rw [hends] at htimes
      cases htimes
    · exact Or.inr ⟨hmixed, hearly⟩
    · rw [hends] at htimes
      cases htimes
  -- past the times only a null can end it, in an exception of the database's
  rcases Except.bind_eq_error.mp h with h | ⟨_, -, h⟩
  · exact absurd h notNull_handled
  rcases Except.bind_eq_error.mp h with h | ⟨_, -, h⟩
  · exact absurd h notNull_handled
  rcases Except.bind_eq_error.mp h with h | ⟨_, -, h⟩
  · exact absurd h notNull_handled
  rcases Except.bind_eq_error.mp h with h | ⟨_, -, h⟩
  · exact absurd h notNull_handled
  cases h

theorem patched_unhandled :
    Unhandled (patched payload event) ↔ ¬ payload.EmptiesTitle ∧
      (payload.MixesTimes event ∨ ¬ payload.EndsEarly event ∧ payload.NullsColumn) := by
  have hcolumns : ∀ k : _ → _ → _ → _ → Event,
      Unhandled (do
        let method ← notNull payload.checkinMethod event.checkinMethod
        let status ← notNull payload.status event.status
        let visibility ← notNull payload.visibility event.visibility
        let nfc ← notNull payload.allowNfcCheckin event.allowNfcCheckin
        return k method status visibility nfc) ↔ payload.NullsColumn := by
    intro k
    refine notNull_bind_unhandled fun method => notNull_bind_unhandled fun status =>
      notNull_bind_unhandled fun visibility => ?_
    exact (notNull_bind_unhandled fun nfc => iff_false_intro not_unhandled_ok).trans
      (iff_of_eq (or_false _))
  rw [patched, unhandled_bind, or_iff_right patchedTitle_handled, ← patchedTitle_isOk]
  simp only [unhandled_bind (x := endsAfterStart payload event), hcolumns, endsAfterStart_unhandled]
  constructor
  · rintro ⟨title, htitle, hrest⟩
    refine ⟨⟨title, htitle⟩, hrest.imp_right ?_⟩
    rintro ⟨_, htimes, hnulls⟩
    exact ⟨(endsAfterStart_eq_ok.mp htimes).2, hnulls⟩
  · rintro ⟨⟨title, htitle⟩, hrest⟩
    refine ⟨title, htitle, ?_⟩
    by_cases hmixed : payload.MixesTimes event
    · exact Or.inl hmixed
    · obtain ⟨htimes, hnulls⟩ := hrest.resolve_left hmixed
      exact Or.inr ⟨(), endsAfterStart_eq_ok.mpr ⟨hmixed, htimes⟩, hnulls⟩

end

end CheckinService
