import CheckinService.Laws.CapacityRace
import CheckinService.Laws.Responses
import CheckinService.Lib.CommitLog

namespace CheckinService

open Relational Interleaving Locking

def RegisterCall.Shows (call : RegisterCall) (r : EventRegistration) : Prop :=
  r.eventId = call.eventId ∧
    (registerTarget call = .ok r.attendeeUserId ∨
      ∃ key, Py.orNone call.idempotencyKey = some key ∧ r.idempotencyKey = some key)

namespace RegistrationPhase

def Keeps (call : RegisterCall) (rows : List EventRegistration) : RegistrationPhase → Prop
  | .start => True
  | .waiting target _ => registerTarget call = .ok target
  | .locked target _ _ => registerTarget call = .ok target
  | .seated target _ _ => registerTarget call = .ok target
  | .refused target => registerTarget call = .ok target
  | .rolledBack target => registerTarget call = .ok target
  | .ended result => ∀ r, result = .ok r → r ∈ rows ∧ call.Shows r

def answer : RegistrationPhase → Option (Handler EventRegistration)
  | .ended result => some result
  | _ => none

def rank : RegistrationPhase → ℕ
  | .start => 6
  | .waiting .. => 5
  | .locked .. => 4
  | .seated .. => 3
  | .refused .. => 2
  | .rolledBack .. => 1
  | .ended .. => 0

end RegistrationPhase

section

variable {ι : Type} {call : RegisterCall} {i : ι} {s : Server ι} {p : RegistrationPhase}

theorem RegistrationPhase.Keeps.mono {rows rows' : List EventRegistration}
    (h : p.Keeps call rows) (hrows : rows <+: rows') : p.Keeps call rows' := by
  cases p with
  | ended result =>
    intro r hr
    exact ⟨hrows.subset (h r hr).1, (h r hr).2⟩
  | _ => exact h

theorem RegistrationPhase.keeps_error {rows : List EventRegistration} (f : Failure) :
    (RegistrationPhase.ended (.error f)).Keeps call rows := by
  intro r hr
  cases hr

theorem existingRegistration_eq_ok {db : Database} {eventId : Int} {target : String}
    {r : EventRegistration} (h : existingRegistration db eventId target = .ok r) :
    r ∈ db.registrations.rows ∧ r.eventId = eventId ∧ r.attendeeUserId = target := by
  rw [existingRegistration] at h
  split at h
  · rename_i found hfound
    cases h
    exact findRegistration_eq_some.mp hfound
  · cases h

inductive RegistrationEntry (call : RegisterCall) (rows : List EventRegistration)
    (p : RegistrationPhase) : List EventRegistration → RegistrationPhase → Prop where
  | rest {p'} : RegistrationEntry call rows p rows p'
  | enter {r} (early : p.answer = none) (own : registerTarget call = .ok r.attendeeUserId)
      (event : r.eventId = call.eventId) :
      RegistrationEntry call rows p (rows ++ [r]) (.ended (.ok r))

theorem registrationStep_entry (h : p.Keeps call s.db.registrations.rows) :
    RegistrationEntry call s.db.registrations.rows p
      (registrationStep call i s p).1.db.registrations.rows (registrationStep call i s p).2 := by
  have hmove := registrationStep_move call i s p
  generalize registrationStep call i s p = result at hmove ⊢
  obtain ⟨s', p'⟩ := result
  simp only at hmove ⊢
  cases hmove with
  | insert insert =>
    obtain ⟨hregistration, hrows, -⟩ := insertRegistration_eq_some insert
    rw [hrows]
    refine .enter rfl ?_ ?_
    · rw [hregistration]
      exact h
    · rw [hregistration]
      rfl
  | _ => exact .rest

theorem RegistrationEntry.grown {rows rows' : List EventRegistration} {p' : RegistrationPhase}
    (h : RegistrationEntry call rows p rows' p') : rows <+: rows' := by
  cases h with
  | rest => exact List.prefix_refl rows
  | enter _ _ _ => exact List.prefix_append _ _

theorem registrationStep_keeps (i : ι) (h : p.Keeps call s.db.registrations.rows) :
    (registrationStep call i s p).2.Keeps call
      (registrationStep call i s p).1.db.registrations.rows := by
  cases p with
  | start =>
    simp only [registrationStep]
    split
    · exact RegistrationPhase.keeps_error _
    · rename_i target htarget
      split
      · exact RegistrationPhase.keeps_error _
      · rename_i existing hreads
        obtain ⟨event, -, -, -, hreplayed⟩ := registrationReads_eq_ok.mp hreads
        obtain ⟨hmem, hevent, key, hne, hcall, hkey⟩ :=
          replayedRegistration_eq_some hreplayed.symm
        intro r hr
        cases hr
        exact ⟨hmem, hevent, Or.inr ⟨key, Py.orNone_eq_some.mpr ⟨hcall, hne⟩, hkey⟩⟩
      · exact htarget
  | waiting target snapshot =>
    simp only [registrationStep]
    split
    · exact h
    · split
      · exact RegistrationPhase.keeps_error _
      · exact h
  | locked target snapshot event => exact h
  | seated target event seat =>
    simp only [registrationStep]
    split
    · exact h
    · rename_i registration db hinsert
      obtain ⟨hregistration, hrows, -⟩ := insertRegistration_eq_some hinsert
      intro r hr
      cases hr
      simp only [hrows]
      refine ⟨by simp, ?_⟩
      rw [hregistration]
      exact ⟨rfl, Or.inl h⟩
  | refused target => exact h
  | rolledBack target =>
    intro r hr
    obtain ⟨hmem, hevent, htarget⟩ := existingRegistration_eq_ok hr
    exact ⟨hmem, hevent, Or.inl (htarget ▸ h)⟩
  | ended result => exact h

theorem registrationStep_rank (call : RegisterCall) (i : ι) (s : Server ι)
    (p : RegistrationPhase) :
    (registrationStep call i s p).2.rank < p.rank ∨ registrationStep call i s p = (s, p) ∧
      (p.rank ≠ 0 → p.held call = none ∧ s.locks call.eventId ≠ none) := by
  cases p with
  | start =>
    left
    simp only [registrationStep]
    split
    · simp [RegistrationPhase.rank]
    · split <;> simp [RegistrationPhase.rank]
  | waiting target snapshot =>
    simp only [registrationStep]
    split
    · rename_i htaken
      exact Or.inr ⟨rfl, fun _ => ⟨rfl, by simp [htaken]⟩⟩
    · left
      split <;> simp [RegistrationPhase.rank]
  | locked target snapshot event =>
    exact Or.inl (by simp [registrationStep, RegistrationPhase.rank])
  | seated target event seat =>
    left
    simp only [registrationStep]
    split <;> simp [RegistrationPhase.rank]
  | refused target => exact Or.inl (by simp [registrationStep, RegistrationPhase.rank])
  | rolledBack target => exact Or.inl (by simp [registrationStep, RegistrationPhase.rank])
  | ended result => exact Or.inr ⟨rfl, fun h => absurd rfl h⟩

end

variable {ι : Type}

structure RushTruthful (old : List EventRegistration) (calls : ι → RegisterCall) (c : Rush ι) :
    Prop where
  logged : ∃ entry : ι → Option EventRegistration,
    Logged old c.shared.db.registrations.rows entry ∧
      ∀ i r, entry i = some r → (c.locals i).answer = some (.ok r) ∧
        r.eventId = (calls i).eventId ∧ registerTarget (calls i) = .ok r.attendeeUserId
  shown : ∀ i r, (c.locals i).answer = some (.ok r) →
    r ∈ c.shared.db.registrations.rows ∧ (calls i).Shows r
  converge : ∀ i j r r', (c.locals i).answer = some (.ok r) →
    (c.locals j).answer = some (.ok r') → Py.orNone (calls i).idempotencyKey = none →
      Py.orNone (calls j).idempotencyKey = none → (calls i).eventId = (calls j).eventId →
        registerTarget (calls i) = registerTarget (calls j) → r = r'

structure Entered (old : List EventRegistration) (calls : ι → RegisterCall) (c : Rush ι) :
    Prop where
  keeps : ∀ j, (c.locals j).Keeps (calls j) c.shared.db.registrations.rows
  logged : ∃ entry : ι → Option EventRegistration,
    Logged old c.shared.db.registrations.rows entry ∧
      ∀ i r, entry i = some r → (c.locals i).answer = some (.ok r) ∧
        r.eventId = (calls i).eventId ∧ registerTarget (calls i) = .ok r.attendeeUserId

section

variable {old : List EventRegistration} {calls : ι → RegisterCall} {c : Rush ι}

theorem Entered.start (calls : ι → RegisterCall) (db : Database) :
    Entered db.registrations.rows calls (rushStart db) := by
  refine ⟨fun _ => trivial, fun _ => none, .start _ fun _ => rfl, ?_⟩
  intro i r h
  cases h

theorem RegisterCall.Shows.own {call : RegisterCall} {r : EventRegistration} (h : call.Shows r)
    (hkeyless : Py.orNone call.idempotencyKey = none) :
    registerTarget call = .ok r.attendeeUserId := by
  rcases h.2 with hown | ⟨key, hkey, -⟩
  · exact hown
  · rw [hkeyless] at hkey
    cases hkey

theorem Entered.shown (h : Entered old calls c) {i : ι} {r : EventRegistration}
    (hanswer : (c.locals i).answer = some (.ok r)) :
    r ∈ c.shared.db.registrations.rows ∧ (calls i).Shows r := by
  have hkeeps := h.keeps i
  cases hp : c.locals i with
  | ended result =>
    rw [hp] at hanswer hkeeps
    cases hanswer
    exact hkeeps r rfl
  | _ =>
    rw [hp] at hanswer
    cases hanswer

theorem Entered.truthful (h : Entered old calls c) : RushTruthful old calls c where
  logged := h.logged
  shown _ _ := h.shown
  converge := by
    intro i j r r' hr hr' hkeyless hkeyless' hevent htarget
    obtain ⟨hmem, hshows⟩ := h.shown hr
    obtain ⟨hmem', hshows'⟩ := h.shown hr'
    have hattendee : Except.ok r.attendeeUserId = Except.ok r'.attendeeUserId :=
      (hshows.own hkeyless).symm.trans (htarget.trans (hshows'.own hkeyless'))
    exact eq_of_attendee hmem hmem' (hshows.1.trans (hevent.trans hshows'.1.symm))
      (Except.ok.inj hattendee)

variable [DecidableEq ι]

theorem answer_turn {calls : ι → RegisterCall} {c : Rush ι} {j : ι}
    {answer : Handler EventRegistration} (i : ι) (h : (c.locals j).answer = some answer) :
    ((turn (registrations calls) c i).locals j).answer = some answer := by
  by_cases hji : j = i
  · subst hji
    rw [turn_locals_self]
    cases hp : c.locals j with
    | ended result =>
      rw [hp] at h
      exact h
    | _ =>
      rw [hp] at h
      cases h
  · rw [turn_locals_of_ne _ _ hji]
    exact h

theorem Entered.after_turn (h : Entered old calls c) (i : ι) :
    Entered old calls (turn (registrations calls) c i) := by
  have hentry : RegistrationEntry (calls i) c.shared.db.registrations.rows (c.locals i)
      (turn (registrations calls) c i).shared.db.registrations.rows
      ((turn (registrations calls) c i).locals i) := by
    rw [turn_locals_self]
    exact registrationStep_entry (h.keeps i)
  constructor
  · apply turn_forall (P := fun j s p => RegistrationPhase.Keeps (calls j)
      s.db.registrations.rows p) (registrations calls)
    · exact registrationStep_keeps i (h.keeps i)
    · intro j _
      exact (h.keeps j).mono hentry.grown
  · obtain ⟨entry, hlogged, hentered⟩ := h.logged
    generalize hrows : (turn (registrations calls) c i).shared.db.registrations.rows = rows
      at hentry
    generalize hp : (turn (registrations calls) c i).locals i = p at hentry
    cases hentry with
    | rest =>
      refine ⟨entry, hlogged, ?_⟩
      intro j r hr
      obtain ⟨hanswer, hown⟩ := hentered j r hr
      exact ⟨answer_turn i hanswer, hown⟩
    | @enter r early own event =>
      have hnone : entry i = none := by
        rw [Option.eq_none_iff_forall_ne_some]
        intro r' hr'
        rw [(hentered i r' hr').1] at early
        cases early
      refine ⟨Function.update entry i (some r), hlogged.enter i (hnone ▸ .enter), ?_⟩
      intro j r' hr'
      by_cases hji : j = i
      · subst hji
        rw [Function.update_self] at hr'
        cases hr'
        rw [hp]
        exact ⟨rfl, event, own⟩
      · rw [Function.update_of_ne hji] at hr'
        obtain ⟨hanswer, hown⟩ := hentered j r' hr'
        exact ⟨answer_turn i hanswer, hown⟩

theorem RegistrationPhase.rank_le (p : RegistrationPhase) : p.rank ≤ 6 := by
  cases p <;> simp [rank]

end

variable [DecidableEq ι]

/-- However the steps of any registrations interleave, every 201 shows a row that is in the table:
the attendee's own, or the one that bears the request's key.  Each request adds one row at most,
and those for one attendee and event that bring no key are all shown the same row. -/
theorem rush_truthful (calls : ι → RegisterCall) (db : Database) (schedule : List ι) :
    Machine.Always (turn (registrations calls)) (RushTruthful db.registrations.rows calls)
      (rushStart db) schedule := by
  apply Machine.Always.imp fun _ h => Entered.truthful h
  exact Machine.always_invariant (fun _ i h => h.after_turn i) (.start calls db) schedule

end CheckinService
