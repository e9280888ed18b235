import CheckinService.Laws.EligibleGroups
import CheckinService.Lib.Python.Numeral

namespace CheckinService

def cohortNumeral (userId : String) : Option (List Nat) :=
  Py.numeral (userId.toList.filter Py.isDigit)

def SameNumeral (userId userId' : String) : Prop :=
  ∃ ds, cohortNumeral userId = some ds ∧ cohortNumeral userId' = some ds

def HasDigit (userId : String) : Prop := ∃ c ∈ userId.toList, Py.isDigit c = true

/-- One cohort id for both: the check reads it from ids with digits, the picker from all. -/
def CohortsCollide (a b : Actor) (db : Database) : Prop :=
  SameNumeral (a.userId.getD "") (b.userId.getD "") ∧
    (HasDigit (a.userId.getD "") ∧ HasDigit (b.userId.getD "") ∨
      LeadsCohort db (a.userId.getD "") ∧ LeadsCohort db (b.userId.getD ""))

def Offers (actor : Actor) (db : Database) (cohortId : Int) : Prop :=
  ∃ groups cohort, listEligibleGroups actor db = .ok groups ∧
    groups.teamLeadCohort = some cohort ∧ cohort.cohortId = cohortId

structure OwnCohorts (a b : Actor) (db : Database) : Prop where
  accepted : ∀ groupId, Accepts a .teamLeadCohort db groupId →
    Accepts b .teamLeadCohort db groupId → a.userId = b.userId
  stamped : ∀ call event groupId, call.actor = a →
    (createEvent call db).1.events.rows = db.events.rows ++ [event] →
    event.groupKind = some .teamLeadCohort → event.groupId = some groupId →
    Accepts b .teamLeadCohort db groupId → a.userId = b.userId
  offered : ∀ cohortId, Offers a db cohortId → Offers b db cohortId → a.userId = b.userId

section

variable {actor : Actor} {db : Database} {userId : String}

theorem cohortDigits_eq_empty : cohortDigits userId = "" ↔ ¬ HasDigit userId := by
  rw [cohortDigits, ← String.toList_eq_nil_iff, String.toList_ofList, List.filter_eq_nil_iff,
    HasDigit]
  simp

/-- The picker's number: of an id without digits it is zero, as of one with nothing but zeros. -/
theorem cohortId_eq_ok {n : Int} :
    cohortId userId = .ok n ↔
      ∃ ds, cohortNumeral userId = some ds ∧ n = (Nat.ofDigits 10 ds.reverse : Nat) := by
  rw [cohortId, cohortNumeral]
  split
  · rename_i hempty
    have hfilter : userId.toList.filter Py.isDigit = [] := by
      rwa [cohortDigits, ← String.toList_eq_nil_iff, String.toList_ofList] at hempty
    have hnone : Py.numeral [] = some [] := by decide
    simp [hfilter, hnone, eq_comm]
  · rename_i hne
    refine Py.int_of_digits (fun c hc => (List.mem_filter.mp hc).2) ?_
    rwa [cohortDigits, ← String.toList_eq_nil_iff, String.toList_ofList] at hne

theorem sameNumeral_iff {userId' : String} :
    SameNumeral userId userId' ↔ ∃ n, cohortId userId = .ok n ∧ cohortId userId' = .ok n := by
  constructor
  · rintro ⟨ds, h, h'⟩
    exact ⟨_, cohortId_eq_ok.mpr ⟨ds, h, rfl⟩, cohortId_eq_ok.mpr ⟨ds, h', rfl⟩⟩
  · rintro ⟨n, h, h'⟩
    obtain ⟨ds, hds, rfl⟩ := cohortId_eq_ok.mp h
    obtain ⟨ds', hds', hsame⟩ := cohortId_eq_ok.mp h'
    have hdigits := congrArg (Nat.digits 10) (Int.ofNat.inj hsame)
    rw [Py.digits_numeral hds, Py.digits_numeral hds', List.reverse_inj] at hdigits
    exact ⟨ds, hds, hdigits ▸ hds'⟩

theorem accepts_iff_cohortId {groupId : Int} :
    Accepts actor .teamLeadCohort db groupId ↔
      HasDigit (actor.userId.getD "") ∧ cohortId (actor.userId.getD "") = .ok groupId := by
  rw [accepts_cohort, cohortId]
  split
  · rename_i hempty
    rw [hempty, int_empty]
    simp [cohortDigits_eq_empty.mp hempty]
  · rename_i hne
    rw [and_iff_right (not_not.mp (cohortDigits_eq_empty.not.mp hne))]

theorem offers_iff {n : Int} :
    Offers actor db n ↔
      LeadsCohort db (actor.userId.getD "") ∧ cohortId (actor.userId.getD "") = .ok n := by
  have hoffers : Offers actor db n ↔
      ∃ cohort, teamLeadCohort actor db = .ok (some cohort) ∧ cohort.cohortId = n := by
    simp only [Offers, listEligibleGroups_eq_ok]
    constructor
    · rintro ⟨_, cohort, ⟨_, hcohort, rfl⟩, rfl, hid⟩
      exact ⟨cohort, hcohort, hid⟩
    · rintro ⟨cohort, hcohort, hid⟩
      exact ⟨_, cohort, ⟨_, hcohort, rfl⟩, rfl, hid⟩
  rw [hoffers]
  by_cases hleads : LeadsCohort db (actor.userId.getD "")
  · rw [and_iff_right hleads, teamLeadCohort_of_leads hleads]
    cases cohortId (actor.userId.getD "") <;> simp [Except.map]
  · simp [teamLeadCohort_of_not_leads hleads, hleads]

theorem accepts_of_stamped {call : CreateCall} {event : Event} {groupId : Int}
    (h : (createEvent call db).1.events.rows = db.events.rows ++ [event])
    (hkind : event.groupKind = some .teamLeadCohort) (hid : event.groupId = some groupId) :
    Accepts call.actor .teamLeadCohort db groupId := by
  obtain ⟨tenant, key, title, hreads, -, rfl⟩ := createEvent_inserts_iff.mp h
  rcases createReads_tier hreads with ⟨hother, -⟩ | ⟨hgroup, id, kind, hid', hkind', heligible⟩
  · simp [newEvent, hother] at hkind
  · simp only [newEvent, hgroup, if_true, hid', hkind', Option.some.injEq] at hkind hid
    subst hkind hid
    exact ⟨tenant, heligible⟩

end

/-- Two users have no cohort id in common exactly when they are one or their ids do not collide. -/
theorem ownCohorts_iff (a b : Actor) (db : Database) :
    OwnCohorts a b db ↔ (CohortsCollide a b db → a.userId = b.userId) := by
  constructor
  · rintro h ⟨hsame, ⟨ha, hb⟩ | ⟨ha, hb⟩⟩
    · obtain ⟨n, hna, hnb⟩ := sameNumeral_iff.mp hsame
      exact h.accepted n (accepts_iff_cohortId.mpr ⟨ha, hna⟩) (accepts_iff_cohortId.mpr ⟨hb, hnb⟩)
    · obtain ⟨n, hna, hnb⟩ := sameNumeral_iff.mp hsame
      exact h.offered n (offers_iff.mpr ⟨ha, hna⟩) (offers_iff.mpr ⟨hb, hnb⟩)
  · intro h
    have haccepted : ∀ groupId, Accepts a .teamLeadCohort db groupId →
        Accepts b .teamLeadCohort db groupId → a.userId = b.userId := by
      intro groupId ha hb
      obtain ⟨hdigit, hna⟩ := accepts_iff_cohortId.mp ha
      obtain ⟨hdigit', hnb⟩ := accepts_iff_cohortId.mp hb
      exact h ⟨sameNumeral_iff.mpr ⟨groupId, hna, hnb⟩, Or.inl ⟨hdigit, hdigit'⟩⟩
    refine ⟨haccepted, ?_, ?_⟩
    · rintro call event groupId rfl hstored hkind hid hb
      exact haccepted groupId (accepts_of_stamped hstored hkind hid) hb
    · intro n ha hb
      obtain ⟨hlead, hna⟩ := offers_iff.mp ha
      obtain ⟨hlead', hnb⟩ := offers_iff.mp hb
      exact h ⟨sameNumeral_iff.mpr ⟨n, hna, hnb⟩, Or.inr ⟨hlead, hlead'⟩⟩

def sampleTeamLead : Actor := ⟨some "team-lead-uid-1200", some "team_lead", none, none⟩

def sampleCohortEvent : CreateCall where
  payload := { title := "Practice", visibility := .groupOnly, groupId := some 1200,
               groupKind := some .teamLeadCohort }
  actor := ⟨some "creator-uid-1200", some "creator", none, none⟩

/-- A creator stamps an event with the cohort id of a team lead whose id has the same digits. -/
theorem ownCohorts_fails_same_digits :
    sampleCohortEvent.payload.accepted 500 = true ∧
      ¬ ∀ (a b : Actor) (db : Database), OwnCohorts a b db := by
  refine ⟨by decide +kernel, ?_⟩
  intro h
  have hlead : Accepts sampleTeamLead .teamLeadCohort {} 1200 :=
    ⟨"user:team-lead-uid-1200", by decide +kernel⟩
  have hstored : (createEvent sampleCohortEvent {}).1.events.rows =
      [] ++ [newEvent sampleCohortEvent "user:creator-uid-1200" none "Practice" 1] := by
    decide +kernel
  have hsame := (h sampleCohortEvent.actor sampleTeamLead {}).stamped sampleCohortEvent _ 1200 rfl
    hstored rfl rfl hlead
  revert hsame
  decide

end CheckinService
