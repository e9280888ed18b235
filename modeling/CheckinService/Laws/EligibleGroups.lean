import CheckinService.Laws.Factors
import CheckinService.Laws.Operations
import CheckinService.Routers.EligibleGroups

namespace CheckinService

open Relational

def Accepts (actor : Actor) (kind : GroupKind) (db : Database) (groupId : Int) : Prop :=
  ∃ tenant, assertGroupEventEligible actor kind groupId db = .ok tenant

def PickerAgrees (actor : Actor) (db : Database) : Prop :=
  ∃ groups, listEligibleGroups actor db = .ok groups ∧
    (∀ groupId, groupId ∈ groups.schoolAdminGroups.map EligibleGroup.groupId ↔
      Accepts actor .schoolAdminGroup db groupId) ∧
    ∀ cohort, groups.teamLeadCohort = some cohort →
      Accepts actor .teamLeadCohort db cohort.cohortId

def Leads (actor : Actor) (g : SchoolAdminGroup) : Prop :=
  actor.userId.getD "" ≠ "" ∧
    (g.teamLeadUserId = some (actor.userId.getD "") ∨ g.createdByUserId = actor.userId.getD "")

/-- An admin leads no group of another school; nobody shares the id of a caller who has none; and
the digits of a lead's id are a number. -/
structure PickerFits (actor : Actor) (db : Database) : Prop where
  ownSchool : actor.isAdmin = true → ∀ school, Py.orNone actor.schoolId = some school →
    ∀ g ∈ db.groups.rows, g.isActive = true → Leads actor g → g.schoolId = school
  named : actor.isAdmin = true → Py.orNone actor.schoolId = none → actor.userId.getD "" = "" →
    ∀ g ∈ db.groups.rows, g.isActive = true →
      g.teamLeadUserId ≠ some "" ∧ g.createdByUserId ≠ ""
  numbered : actor.userId.getD "" ≠ "" → acceptedRelationships db (actor.userId.getD "") ≠ [] →
    ∃ n, Py.int (cohortDigits (actor.userId.getD "")) = .ok n

def LeadsCohort (db : Database) (userId : String) : Prop :=
  userId ≠ "" ∧ acceptedRelationships db userId ≠ []

def MayAuthor (actor : Actor) (g : SchoolAdminGroup) : Prop :=
  Leads actor g ∨ actor.isAdmin = true ∧ Py.orNone actor.schoolId = some g.schoolId

section

variable {actor : Actor} {db : Database} {groupId : Int} {g : SchoolAdminGroup}

theorem leads_iff :
    Leads actor g ↔
      actor.userId.getD "" ≠ "" ∧ (actor.userId.getD "" = g.teamLeadUserId.getD "" ∨
        actor.userId.getD "" = g.createdByUserId) := by
  rw [Leads]
  refine and_congr_right fun hne => or_congr ?_ eq_comm
  cases g.teamLeadUserId with
  | none => simp [hne]
  | some lead => simp [eq_comm]

theorem accepts_group :
    Accepts actor .schoolAdminGroup db groupId ↔
      ∃ g ∈ db.groups.rows, g.id = groupId ∧ g.isActive = true ∧ MayAuthor actor g := by
  have hfirst : ∀ g, (db.groups.first fun g => g.id = groupId && g.isActive) = some g ↔
      g ∈ db.groups.rows ∧ g.id = groupId ∧ g.isActive = true :=
    fun g => Table.first_id_eq_some
  rw [Accepts]
  simp only [assertGroupEventEligible]
  cases hfound : db.groups.first fun g => g.id = groupId && g.isActive with
  | none =>
    simp only [httpError, reduceCtorEq, exists_false, false_iff]
    rintro ⟨g, hg, hid, hactive, -⟩
    have := (hfirst g).mpr ⟨hg, hid, hactive⟩
    rw [hfound] at this
    cases this
  | some found =>
    have hmay : MayAuthor actor found ↔
        (∃ g ∈ db.groups.rows, g.id = groupId ∧ g.isActive = true ∧ MayAuthor actor g) := by
      constructor
      · intro h
        obtain ⟨hmem, hid, hactive⟩ := (hfirst found).mp hfound
        exact ⟨found, hmem, hid, hactive, h⟩
      · rintro ⟨g, hg, hid, hactive, h⟩
        have := (hfirst g).mpr ⟨hg, hid, hactive⟩
        cases hfound.symm.trans this
        exact h
    rw [← hmay, MayAuthor, leads_iff]
    simp only [Bool.or_eq_true, Bool.and_eq_true, decide_eq_true_eq, ne_eq]
    split
    · rename_i h
      simp only [h, iff_true]
      exact ⟨_, rfl⟩
    · rename_i h
      simp [httpError, h]

theorem int_empty : Py.int "" = .error .valueError := by decide

theorem accepts_cohort :
    Accepts actor .teamLeadCohort db groupId ↔
      Py.int (cohortDigits (actor.userId.getD "")) = .ok groupId := by
  rw [Accepts]
  simp only [assertGroupEventEligible]
  by_cases hdigits : cohortDigits (actor.userId.getD "") = ""
  · simp [hdigits, int_empty, httpError]
  · rw [if_neg hdigits]
    cases hint : Py.int (cohortDigits (actor.userId.getD "")) with
    | error e => simp [catchNothing, Except.mapError, bind, Except.bind]
    | ok n =>
      by_cases hn : n = groupId
      · simp [catchNothing, Except.mapError, bind, Except.bind, hn, pure, Except.pure]
      · simp [catchNothing, Except.mapError, bind, Except.bind, hn, httpError]

def Picked (actor : Actor) (g : SchoolAdminGroup) : Prop :=
  (actor.userId.getD "" ≠ "" ∨ actor.isAdmin = true) ∧
    match actor.isAdmin, Py.orNone actor.schoolId with
    | true, some school => g.schoolId = school
    | _, _ => g.teamLeadUserId = some (actor.userId.getD "") ∨
        g.createdByUserId = actor.userId.getD ""

theorem pickedGroup_eq_true (hasked : actor.userId.getD "" ≠ "" ∨ actor.isAdmin = true) :
    pickedGroup actor g = true ↔ g.isActive = true ∧ Picked actor g := by
  rw [pickedGroup, Picked, Bool.and_eq_true, and_congr_right_iff]
  intro _
  simp only [hasked, true_and]
  cases actor.isAdmin with
  | false => simp
  | true => cases Py.orNone actor.schoolId <;> simp

theorem mem_schoolAdminGroups :
    groupId ∈ (schoolAdminGroups actor db).map EligibleGroup.groupId ↔
      ∃ g ∈ db.groups.rows, g.id = groupId ∧ g.isActive = true ∧ Picked actor g := by
  rw [schoolAdminGroups]
  split
  · rename_i hasked
    simp only [Bool.or_eq_true, decide_eq_true_eq] at hasked
    simp only [List.map_map, List.mem_map, List.mem_mergeSort, List.mem_filter,
      pickedGroup_eq_true hasked, Function.comp_apply, eligibleGroup]
    constructor
    · rintro ⟨g, ⟨hg, hpicked⟩, hid⟩
      exact ⟨g, hg, hid, hpicked⟩
    · rintro ⟨g, hg, hid, hpicked⟩
      exact ⟨g, ⟨hg, hpicked⟩, hid⟩
  · rename_i hasked
    simp only [Bool.or_eq_true, decide_eq_true_eq] at hasked
    simp only [List.map_nil, List.not_mem_nil, false_iff]
    rintro ⟨g, -, -, -, hpicked⟩
    exact hasked hpicked.1

theorem same_groups_iff {P Q : SchoolAdminGroup → Prop} :
    (∀ groupId, (∃ g ∈ db.groups.rows, g.id = groupId ∧ g.isActive = true ∧ P g) ↔
        ∃ g ∈ db.groups.rows, g.id = groupId ∧ g.isActive = true ∧ Q g) ↔
      ∀ g ∈ db.groups.rows, g.isActive = true → (P g ↔ Q g) := by
  constructor
  · intro h g hg hactive
    constructor
    · intro hP
      obtain ⟨g', hg', hid, -, hQ⟩ := (h g.id).mp ⟨g, hg, rfl, hactive, hP⟩
      rw [← db.groups.eq_of_id hg' hg hid]
      exact hQ
    · intro hQ
      obtain ⟨g', hg', hid, -, hP⟩ := (h g.id).mpr ⟨g, hg, rfl, hactive, hQ⟩
      rw [← db.groups.eq_of_id hg' hg hid]
      exact hP
  · intro h groupId
    refine exists_congr fun g => and_congr_right fun hg => and_congr_right fun _ =>
      and_congr_right fun hactive => h g hg hactive

theorem picked_iff_mayAuthor :
    (Picked actor g ↔ MayAuthor actor g) ↔
      (actor.isAdmin = true → ∀ school, Py.orNone actor.schoolId = some school →
        Leads actor g → g.schoolId = school) ∧
      (actor.isAdmin = true → Py.orNone actor.schoolId = none → actor.userId.getD "" = "" →
        g.teamLeadUserId ≠ some "" ∧ g.createdByUserId ≠ "") := by
  rw [Picked, MayAuthor]
  cases hadmin : actor.isAdmin with
  | false => simp [Leads]
  | true =>
    cases hschool : Py.orNone actor.schoolId with
    | some school =>
      simp only [or_true, true_and, true_implies, Option.some.injEq, forall_eq', reduceCtorEq,
        false_implies, and_true]
      constructor
      · intro h hleads
        exact h.mpr (Or.inl hleads)
      · intro h
        exact ⟨fun hsame => Or.inr hsame.symm, fun hmay => hmay.elim h Eq.symm⟩
    | none =>
      by_cases huid : actor.userId.getD "" = ""
      · simp [Leads, huid, not_or]
      · simp [Leads, huid]

theorem listEligibleGroups_eq_ok {groups : EligibleGroups} :
    listEligibleGroups actor db = .ok groups ↔
      ∃ cohort, teamLeadCohort actor db = .ok cohort ∧
        groups = ⟨schoolAdminGroups actor db, cohort⟩ := by
  rw [listEligibleGroups]
  cases teamLeadCohort actor db with
  | error e => simp [catchNothing, Except.mapError, bind, Except.bind]
  | ok cohort =>
    simp [catchNothing, Except.mapError, bind, Except.bind, pure, Except.pure, eq_comm]

theorem teamLeadCohort_of_leads (h : LeadsCohort db (actor.userId.getD "")) :
    teamLeadCohort actor db = (cohortId (actor.userId.getD "")).map fun n =>
      let accepted := acceptedRelationships db (actor.userId.getD "")
      some ⟨n, accepted.length, cohortSport accepted⟩ := by
  rw [teamLeadCohort, if_neg]
  · cases cohortId (actor.userId.getD "") <;> rfl
  · simp only [Bool.or_eq_true, decide_eq_true_eq, List.isEmpty_iff]
    exact not_or.mpr h

theorem teamLeadCohort_of_not_leads (h : ¬ LeadsCohort db (actor.userId.getD "")) :
    teamLeadCohort actor db = .ok none := by
  rw [teamLeadCohort, if_pos]
  simp only [Bool.or_eq_true, decide_eq_true_eq, List.isEmpty_iff]
  rwa [LeadsCohort, ← not_or, not_not] at h

theorem teamLeadCohort_accepted_iff :
    (∃ cohort, teamLeadCohort actor db = .ok cohort ∧ ∀ c, cohort = some c →
        Accepts actor .teamLeadCohort db c.cohortId) ↔
      (actor.userId.getD "" ≠ "" → acceptedRelationships db (actor.userId.getD "") ≠ [] →
        ∃ n, Py.int (cohortDigits (actor.userId.getD "")) = .ok n) := by
  rw [← and_imp]
  change _ ↔ (LeadsCohort db (actor.userId.getD "") → _)
  simp only [accepts_cohort]
  by_cases hleads : LeadsCohort db (actor.userId.getD "")
  · simp only [teamLeadCohort_of_leads hleads, hleads, true_implies, cohortId]
    by_cases hdigits : cohortDigits (actor.userId.getD "") = ""
    · simp [hdigits, int_empty, Except.map]
    · rw [if_neg hdigits]
      cases hint : Py.int (cohortDigits (actor.userId.getD "")) with
      | error e => simp [Except.map]
      | ok n => simp [Except.map]
  · refine iff_of_true ⟨none, teamLeadCohort_of_not_leads hleads, by simp⟩ ?_
    exact fun h => absurd h hleads

end

/-- The picker offers what the check accepts, exactly under `PickerFits`. -/
theorem pickerAgrees_iff (actor : Actor) (db : Database) :
    PickerAgrees actor db ↔ PickerFits actor db := by
  have hgroups : (∀ groupId, groupId ∈ (schoolAdminGroups actor db).map EligibleGroup.groupId ↔
      Accepts actor .schoolAdminGroup db groupId) ↔
        ∀ g ∈ db.groups.rows, g.isActive = true → (Picked actor g ↔ MayAuthor actor g) := by
    simp only [mem_schoolAdminGroups, accepts_group]
    exact same_groups_iff
  calc
    PickerAgrees actor db ↔
        (∀ groupId, groupId ∈ (schoolAdminGroups actor db).map EligibleGroup.groupId ↔
          Accepts actor .schoolAdminGroup db groupId) ∧
        ∃ cohort, teamLeadCohort actor db = .ok cohort ∧ ∀ c, cohort = some c →
          Accepts actor .teamLeadCohort db c.cohortId := by
      simp only [PickerAgrees, listEligibleGroups_eq_ok]
      constructor
      · rintro ⟨_, ⟨cohort, hcohort, rfl⟩, hsame, haccepted⟩
        exact ⟨hsame, cohort, hcohort, haccepted⟩
      · rintro ⟨hsame, cohort, hcohort, haccepted⟩
        exact ⟨_, ⟨cohort, hcohort, rfl⟩, hsame, haccepted⟩
    _ ↔ PickerFits actor db := by
      rw [hgroups, teamLeadCohort_accepted_iff]
      simp only [picked_iff_mayAuthor]
      constructor
      · rintro ⟨hfits, hnumbered⟩
        refine ⟨?_, ?_, hnumbered⟩
        · intro hadmin school hschool g hg hactive
          exact (hfits g hg hactive).1 hadmin school hschool
        · intro hadmin hschool huid g hg hactive
          exact (hfits g hg hactive).2 hadmin hschool huid
      · rintro ⟨hown, hnamed, hnumbered⟩
        refine ⟨?_, hnumbered⟩
        intro g hg hactive
        exact ⟨fun hadmin school hschool => hown hadmin school hschool g hg hactive,
          fun hadmin hschool huid => hnamed hadmin hschool huid g hg hactive⟩

def sampleTravellingAdmin : Database where
  groups := .single
    { id := 1, schoolId := "school-1", name := "Alumni", teamLeadUserId := some "admin-2"
      createdByUserId := "coach-1" }

theorem pickerAgrees_fails_other_school :
    requireEventCreator sampleSchoolAdmin = .ok () ∧
      ¬ PickerAgrees sampleSchoolAdmin sampleTravellingAdmin := by
  refine ⟨rfl, ?_⟩
  rintro ⟨groups, hlist, hsame, -⟩
  obtain ⟨cohort, -, rfl⟩ := listEligibleGroups_eq_ok.mp hlist
  have haccepts : Accepts sampleSchoolAdmin .schoolAdminGroup sampleTravellingAdmin 1 :=
    ⟨"school-1", by decide +kernel⟩
  have hmissing : 1 ∉ (schoolAdminGroups sampleSchoolAdmin sampleTravellingAdmin).map
      EligibleGroup.groupId := by
    decide +kernel
  exact hmissing ((hsame 1).mpr haccepts)

end CheckinService
