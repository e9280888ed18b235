import CheckinService.Laws.CheckinSteps
import CheckinService.Laws.Retries
import CheckinService.Lib.Interleaving
import Mathlib.Data.Fintype.Basic

/-! One token, many requests at once.  The peek and the consumption of a token are separate
steps, and nothing but their order keeps two requests from passing the first before either
reaches the second. -/

namespace CheckinService

open Relational Interleaving

def EventCheckin.bears (hash : String) (c : EventCheckin) : Bool := c.qrTokenHash = some hash

def TokenUsed (hash : String) (db : Database) : Prop :=
  ∃ t ∈ db.qrTokens.rows, t.tokenHash = hash ∧ t.usedAt.isSome = true

namespace CheckinPhase

def committed : CheckinPhase → Option (CheckinPlan × EventCheckin)
  | .inserted _ plan checkin => some (plan, checkin)
  | .attended _ plan checkin => some (plan, checkin)
  | .consuming _ plan checkin _ => some (plan, checkin)
  | .finished plan checkin => some (plan, checkin)
  | _ => none

def pending : CheckinPhase → Bool
  | .inserted .. => true
  | .attended .. => true
  | .consuming .. => true
  | _ => false

def qr : CheckinPhase → Option (QrToken × String)
  | .peeked _ _ _ qr => qr
  | .ready _ plan => plan.qr
  | .inserted _ plan _ => plan.qr
  | .attended _ plan _ => plan.qr
  | .consuming _ plan _ _ => plan.qr
  | _ => none

def Bears (hash : String) (p : CheckinPhase) : Prop :=
  ∃ plan checkin, p.committed = some (plan, checkin) ∧ checkin.bears hash = true

def InFlight (hash : String) (p : CheckinPhase) : Prop := p.pending = true ∧ p.Bears hash

structure Sound (db : Database) (p : CheckinPhase) : Prop where
  peeked : ∀ row hash, p.qr = some (row, hash) →
    ∃ t ∈ db.qrTokens.rows, t.id = row.id ∧ t.tokenHash = hash
  written : ∀ plan checkin, p.committed = some (plan, checkin) →
    checkin ∈ db.checkins.rows ∧ checkin.qrTokenHash = plan.qr.map Prod.snd
  found : ∀ target plan checkin rowId, p = .consuming target plan checkin rowId →
    ∃ row hash, plan.qr = some (row, hash) ∧ rowId = row.id

end CheckinPhase

inductive TokenMove (call : CheckinCall) (s : Service) :
    CheckinPhase → Service → CheckinPhase → Prop where
  | read {p s' p'} (checkins : s'.db.checkins = s.db.checkins)
      (qrTokens : s'.db.qrTokens = s.db.qrTokens) (committed : p'.committed = p.committed)
      (pending : p'.pending = p.pending) : TokenMove call s p s' p'
  | insert {target plan checkin s'}
      (insert : insertCheckin call target plan s.db = some (checkin, s'.db)) :
      TokenMove call s (.ready target plan) s' (.inserted target plan checkin)
  | release {target plan checkin} (spent : readToken plan s.db = none) :
      TokenMove call s (.attended target plan checkin) s (.finished plan checkin)
  | burn {target plan checkin rowId s'}
      (burnt : s'.db = burnToken rowId (some target) call.clock.utcnow s.db) :
      TokenMove call s (.consuming target plan checkin rowId) s' (.finished plan checkin)

theorem checkinStep_move (env : Env) (call : CheckinCall) (s : Service) (p : CheckinPhase) :
    TokenMove call s p (checkinStep env call s p).1 (checkinStep env call s p).2 := by
  cases p with
  | start =>
    simp only [checkinStep]
    split
    · exact .read rfl rfl rfl rfl
    · split <;> exact .read rfl rfl rfl rfl
  | admitted target =>
    simp only [checkinStep]
    split <;> exact .read rfl rfl rfl rfl
  | opened target event method =>
    simp only [checkinStep]
    split <;> exact .read rfl rfl rfl rfl
  | peeked target event method qr =>
    simp only [checkinStep]
    split <;> exact .read rfl rfl rfl rfl
  | ready target plan =>
    simp only [checkinStep]
    split
    · exact .read rfl rfl rfl rfl
    · rename_i h
      exact .insert h
  | inserted target plan checkin => exact .read rfl rfl rfl rfl
  | attended target plan checkin =>
    simp only [checkinStep]
    split
    · rename_i h
      exact .release h
    · exact .read rfl rfl rfl rfl
  | consuming target plan checkin rowId => exact .burn rfl
  | finished plan checkin => exact .read rfl rfl rfl rfl
  | ended outcome => exact .read rfl rfl rfl rfl

structure Grows (db db' : Database) : Prop where
  checkins : ∀ c ∈ db.checkins.rows, c ∈ db'.checkins.rows
  qrTokens : ∀ t ∈ db.qrTokens.rows, ∃ t' ∈ db'.qrTokens.rows, t'.id = t.id ∧
    t'.tokenHash = t.tokenHash ∧ t'.singleUse = t.singleUse ∧
    (t.usedAt.isSome = true → t'.usedAt.isSome = true)
  origin : ∀ t' ∈ db'.qrTokens.rows, ∃ t ∈ db.qrTokens.rows,
    t.tokenHash = t'.tokenHash ∧ t.singleUse = t'.singleUse

theorem Grows.of_eq {db db' : Database} (hcheckins : db'.checkins = db.checkins)
    (hqrTokens : db'.qrTokens = db.qrTokens) : Grows db db' := by
  constructor
  · intro c hc
    rw [hcheckins]
    exact hc
  · intro t ht
    rw [hqrTokens]
    exact ⟨t, ht, rfl, rfl, rfl, id⟩
  · intro t ht
    rw [hqrTokens] at ht
    exact ⟨t, ht, rfl, rfl⟩

theorem burnToken_rows (rowId : Int) (user : Option String) (now : ℚ) (db : Database) :
    (burnToken rowId user now db).qrTokens.rows =
      db.qrTokens.rows.map fun t => if t.id = rowId then t.burn now user else t := rfl

theorem Grows.burn (rowId : Int) (user : Option String) (now : ℚ) (db : Database) :
    Grows db (burnToken rowId user now db) := by
  constructor
  · intro c hc
    exact hc
  · intro t ht
    refine ⟨if t.id = rowId then t.burn now user else t, ?_, ?_⟩
    · rw [burnToken_rows]
      exact List.mem_map_of_mem ht
    · split
      · exact ⟨rfl, rfl, rfl, fun _ => rfl⟩
      · exact ⟨rfl, rfl, rfl, id⟩
  · intro t' ht'
    rw [burnToken_rows] at ht'
    obtain ⟨t, ht, rfl⟩ := List.mem_map.mp ht'
    refine ⟨t, ht, ?_⟩
    split <;> exact ⟨rfl, rfl⟩

theorem TokenMove.grows {call : CheckinCall} {s s' : Service} {p p' : CheckinPhase}
    (h : TokenMove call s p s' p') : Grows s.db s'.db := by
  cases h with
  | read checkins qrTokens _ _ => exact Grows.of_eq checkins qrTokens
  | insert insert =>
    obtain ⟨-, -, hrows, hdb⟩ := insertCheckin_eq_some insert
    have htokens : Grows { s.db with checkins := s'.db.checkins } s'.db :=
      Grows.of_eq rfl (by rw [hdb])
    refine ⟨?_, htokens.qrTokens, htokens.origin⟩
    intro c hc
    rw [hrows]
    exact List.mem_append_left _ hc
  | release _ => exact Grows.of_eq rfl rfl
  | burn burnt =>
    rw [burnt]
    exact Grows.burn _ _ _ _

theorem TokenUsed.grows {hash : String} {db db' : Database} (h : Grows db db')
    (hused : TokenUsed hash db) : TokenUsed hash db' := by
  obtain ⟨t, ht, hhash, hsome⟩ := hused
  obtain ⟨t', ht', -, hhash', -, hsome'⟩ := h.qrTokens t ht
  exact ⟨t', ht', hhash'.trans hhash, hsome' hsome⟩

theorem CheckinPhase.Sound.grows {p : CheckinPhase} {db db' : Database} (h : Grows db db')
    (hp : p.Sound db) : p.Sound db' := by
  refine ⟨?_, ?_, hp.found⟩
  · intro row hash hqr
    obtain ⟨t, ht, hid, hhash⟩ := hp.peeked row hash hqr
    obtain ⟨t', ht', hid', hhash', -⟩ := h.qrTokens t ht
    exact ⟨t', ht', hid'.trans hid, hhash'.trans hhash⟩
  · intro plan checkin hcommitted
    obtain ⟨hmem, hqr⟩ := hp.written plan checkin hcommitted
    exact ⟨h.checkins checkin hmem, hqr⟩

theorem CheckinPhase.Sound.trivial {p : CheckinPhase} {db : Database} (hqr : p.qr = none)
    (hcommitted : p.committed = none) (hpending : p.pending = false) : p.Sound db := by
  constructor
  · intro row hash h
    rw [hqr] at h
    cases h
  · intro plan checkin h
    rw [hcommitted] at h
    cases h
  · intro target plan checkin rowId h
    rw [h] at hpending
    cases hpending

theorem CheckinPhase.Sound.next {p p' : CheckinPhase} {db : Database} (hp : p.Sound db)
    (hqr : p'.qr = p.qr ∨ p'.qr = none) (hcommitted : p'.committed = p.committed)
    (hfound : ∀ target plan checkin rowId, p' = .consuming target plan checkin rowId →
      ∃ row hash, plan.qr = some (row, hash) ∧ rowId = row.id) : p'.Sound db := by
  refine ⟨?_, ?_, hfound⟩
  · intro row hash h
    rcases hqr with hqr | hqr
    · rw [hqr] at h
      exact hp.peeked row hash h
    · rw [hqr] at h
      cases h
  · rw [hcommitted]
    exact hp.written

theorem readToken_eq_some {plan : CheckinPlan} {db : Database} {t : QrToken}
    (h : readToken plan db = some t) :
    ∃ row hash, plan.qr = some (row, hash) ∧ t.id = row.id := by
  rw [readToken] at h
  cases hqr : plan.qr with
  | none =>
    rw [hqr] at h
    cases h
  | some q =>
    rw [hqr] at h
    have hrow : db.qrTokens.byId q.1.id = some t := (Option.filter_eq_some_iff.mp h).1
    exact ⟨q.1, q.2, rfl, (Table.byId_eq_some.mp hrow).2⟩

theorem readToken_eq_none {plan : CheckinPlan} {db : Database} {row t : QrToken} {hash : String}
    (h : readToken plan db = none) (hqr : plan.qr = some (row, hash))
    (ht : t ∈ db.qrTokens.rows) (hid : t.id = row.id) : t.unburnt = false := by
  have hbyId : db.qrTokens.byId row.id = some t := Table.byId_eq_some.mpr ⟨ht, hid⟩
  rw [readToken, hqr] at h
  change (db.qrTokens.byId row.id).filter QrToken.unburnt = none at h
  rw [hbyId] at h
  simpa [Option.filter] using h

theorem qrGate_found {env : Env} {call : CheckinCall} {target : String}
    {method : CheckinMethod} {db : Database} {row : QrToken} {hash : String}
    (h : qrGate env call target method db = .ok (some (row, hash))) :
    row ∈ db.qrTokens.rows ∧ row.tokenHash = hash := by
  cases hneeds : method.needsQr with
  | false =>
    rw [qrGate_of_not_needsQr hneeds] at h
    cases h
  | true =>
    obtain ⟨rawToken, row', hpeek, heq⟩ := (qrGate_of_needsQr hneeds).mp h
    cases heq
    exact findToken_eq_some.mp (peeksOk_iff.mp hpeek).2.2.1

theorem planGates_qr {env : Env} {call : CheckinCall} {target : String} {event : Event}
    {method : CheckinMethod} {qr : Option (QrToken × String)} {db : Database}
    {plan : CheckinPlan} (h : planGates env call target event method qr db = .ok plan) :
    plan.qr = qr := by
  obtain ⟨geo, -, h⟩ := Except.bind_eq_ok.mp h
  obtain ⟨registration, -, h⟩ := Except.bind_eq_ok.mp h
  cases h
  rfl

theorem checkinStep_sound (env : Env) (call : CheckinCall) {s : Service} {p : CheckinPhase}
    (hp : p.Sound s.db) :
    (checkinStep env call s p).2.Sound (checkinStep env call s p).1.db := by
  have hended : ∀ {db o}, (CheckinPhase.ended o).Sound db := .trivial rfl rfl rfl
  cases p with
  | start =>
    simp only [checkinStep]
    split
    · exact hended
    · split
      · exact hended
      · exact .trivial rfl rfl rfl
  | admitted target =>
    simp only [checkinStep]
    split
    · exact hended
    · exact .trivial rfl rfl rfl
  | opened target event method =>
    simp only [checkinStep]
    split
    · exact hended
    · rename_i qr hqr
      refine ⟨?_, ?_, ?_⟩
      · intro row hash h
        cases (show qr = some (row, hash) from h)
        obtain ⟨hmem, hhash⟩ := qrGate_found hqr
        exact ⟨row, hmem, rfl, hhash⟩
      · intro plan checkin h
        cases h
      · intro target plan checkin rowId h
        cases h
  | peeked target event method qr =>
    simp only [checkinStep]
    split
    · exact hended
    · rename_i plan hplan
      refine hp.next (Or.inl (planGates_qr hplan)) rfl ?_
      intro target plan checkin rowId h
      cases h
  | ready target plan =>
    simp only [checkinStep]
    split
    · exact hended
    · rename_i checkin db hinsert
      obtain ⟨-, hcheckin, hrows, hdb⟩ := insertCheckin_eq_some hinsert
      -- from here on the check-in that bears the plan's token is in the table
      refine ⟨?_, ?_, ?_⟩
      · rw [hdb]
        exact hp.peeked
      · intro plan' checkin' h
        cases h
        refine ⟨?_, by rw [hcheckin]; rfl⟩
        change checkin ∈ db.checkins.rows
        rw [hrows]
        exact List.mem_append_right _ (List.mem_singleton.mpr rfl)
      · intro target plan checkin rowId h
        cases h
  | inserted target plan checkin =>
    have hnext : (CheckinPhase.attended target plan checkin).Sound s.db := by
      refine hp.next (Or.inl rfl) rfl ?_
      intro target plan checkin rowId h
      cases h
    have hgrows : Grows s.db (markAttended plan.registration.id s.db) := Grows.of_eq rfl rfl
    simp only [checkinStep]
    exact hnext.grows hgrows
  | attended target plan checkin =>
    simp only [checkinStep]
    split
    · refine hp.next (Or.inr rfl) rfl ?_
      intro target plan checkin rowId h
      cases h
    · rename_i t ht
      refine hp.next (Or.inl rfl) rfl ?_
      intro target plan checkin rowId h
      cases h
      exact readToken_eq_some ht
  | consuming target plan checkin rowId =>
    have hnext : (CheckinPhase.finished plan checkin).Sound s.db := by
      refine hp.next (Or.inr rfl) rfl ?_
      intro target plan checkin rowId h
      cases h
    simp only [checkinStep]
    exact hnext.grows (Grows.burn _ _ _ _)
  | finished plan checkin => exact hp
  | ended outcome => exact hp

variable {ι : Type}

def submissions (env : Env) (calls : ι → CheckinCall) (i : ι) :
    Service → CheckinPhase → Service × CheckinPhase := checkinStep env (calls i)

abbrev Race (ι : Type) := Config Service ι CheckinPhase

def raceStart (s : Service) : Race ι := ⟨s, fun _ => .start⟩

structure RaceInvariant (hash : String) (c : Race ι) : Prop where
  issued : ∀ t ∈ c.shared.db.qrTokens.rows, t.tokenHash = hash → t.singleUse = true
  accounted : (∃ ch ∈ c.shared.db.checkins.rows, ch.bears hash = true) →
    TokenUsed hash c.shared.db ∨ ∃ j, (c.locals j).InFlight hash
  backed : TokenUsed hash c.shared.db → ∃ ch ∈ c.shared.db.checkins.rows, ch.bears hash = true
  sound : ∀ j, (c.locals j).Sound c.shared.db
  distinct : ∀ i j plan checkin plan' checkin', i ≠ j →
    (c.locals i).committed = some (plan, checkin) →
    (c.locals j).committed = some (plan', checkin') → checkin.id ≠ checkin'.id

section

variable {hash : String} {call : CheckinCall} {c : Race ι} {i : ι} {s' : Service}
  {p' : CheckinPhase}

theorem RaceInvariant.row_of_bears (h : RaceInvariant hash c) {j : ι} {plan : CheckinPlan}
    {checkin : EventCheckin} (hcommitted : (c.locals j).committed = some (plan, checkin))
    (hbears : checkin.bears hash = true) (hqr : (c.locals j).qr = plan.qr) :
    ∃ row t, plan.qr = some (row, hash) ∧ t ∈ c.shared.db.qrTokens.rows ∧ t.id = row.id ∧
      t.tokenHash = hash := by
  have hwritten := ((h.sound j).written plan checkin hcommitted).2
  rw [EventCheckin.bears, decide_eq_true_eq] at hbears
  rw [hbears] at hwritten
  obtain ⟨⟨row, hash'⟩, hplan, rfl⟩ := Option.map_eq_some_iff.mp hwritten.symm
  obtain ⟨t, ht, hid, hhash⟩ := (h.sound j).peeked row _ (hqr.trans hplan)
  exact ⟨row, t, hplan, ht, hid, hhash⟩

theorem TokenMove.accounted (h : RaceInvariant hash c)
    (hmove : TokenMove call c.shared (c.locals i) s' p')
    (hbearer : ∃ ch ∈ s'.db.checkins.rows, ch.bears hash = true) :
    TokenUsed hash s'.db ∨ p'.InFlight hash ∨ ∃ j, j ≠ i ∧ (c.locals j).InFlight hash := by
  have hgrows := hmove.grows
  generalize hp : c.locals i = p at hmove
  cases hmove with
  | read checkins qrTokens committed pending =>
    rw [checkins] at hbearer
    rcases h.accounted hbearer with hused | ⟨j, hj⟩
    · exact Or.inl (hused.grows hgrows)
    · by_cases hji : j = i
      · subst hji
        rw [hp] at hj
        refine Or.inr (Or.inl ⟨pending.trans hj.1, ?_⟩)
        rw [CheckinPhase.Bears, committed]
        exact hj.2
      · exact Or.inr (Or.inr ⟨j, hji, hj⟩)
  | @insert target plan checkin _ insert =>
    cases hb : checkin.bears hash with
    | true => exact Or.inr (Or.inl ⟨rfl, plan, checkin, rfl, hb⟩)
    | false =>
      obtain ⟨-, -, hrows, -⟩ := insertCheckin_eq_some insert
      rw [hrows] at hbearer
      obtain ⟨ch, hch, hchb⟩ := hbearer
      rcases List.mem_append.mp hch with hch | hch
      · rcases h.accounted ⟨ch, hch, hchb⟩ with hused | ⟨j, hj⟩
        · exact Or.inl (hused.grows hgrows)
        · refine Or.inr (Or.inr ⟨j, ?_, hj⟩)
          rintro rfl
          rw [hp] at hj
          cases hj.1
      · rw [List.mem_singleton.mp hch, hb] at hchb
        cases hchb
  | @release target plan checkin spent =>
    rcases h.accounted hbearer with hused | ⟨j, hj⟩
    · exact Or.inl hused
    · by_cases hji : j = i
      · -- it lands without having burnt the row, which it has found spent
        subst hji
        obtain ⟨plan', checkin', hcommitted, hb⟩ := hj.2
        have hcommitted' := hcommitted
        rw [hp] at hcommitted'
        cases hcommitted'
        obtain ⟨row, t, hqr, ht, hid, hhash⟩ := h.row_of_bears hcommitted hb (by rw [hp]; rfl)
        have hburnt := readToken_eq_none spent hqr ht hid
        refine Or.inl ⟨t, ht, hhash, ?_⟩
        simpa [QrToken.unburnt, h.issued t ht hhash] using hburnt
      · exact Or.inr (Or.inr ⟨j, hji, hj⟩)
  | @burn target plan checkin rowId _ burnt =>
    have hcheckins : s'.db.checkins = c.shared.db.checkins := by
      rw [burnt]
      rfl
    rw [hcheckins] at hbearer
    rcases h.accounted hbearer with hused | ⟨j, hj⟩
    · exact Or.inl (hused.grows hgrows)
    · by_cases hji : j = i
      · -- the row it burns is that of the token it is in flight with
        subst hji
        obtain ⟨plan', checkin', hcommitted, hb⟩ := hj.2
        have hcommitted' := hcommitted
        rw [hp] at hcommitted'
        cases hcommitted'
        obtain ⟨row, t, hqr, ht, hid, hhash⟩ := h.row_of_bears hcommitted hb (by rw [hp]; rfl)
        obtain ⟨row', hash', hqr', hrowId⟩ := (h.sound j).found target plan checkin rowId hp
        cases hqr.symm.trans hqr'
        refine Or.inl ⟨t.burn call.clock.utcnow (some target), ?_, hhash, rfl⟩
        rw [burnt, burnToken_rows, List.mem_map]
        exact ⟨t, ht, if_pos (hid.trans hrowId.symm)⟩
      · exact Or.inr (Or.inr ⟨j, hji, hj⟩)

theorem TokenMove.backed (h : RaceInvariant hash c)
    (hmove : TokenMove call c.shared (c.locals i) s' p') (hused : TokenUsed hash s'.db) :
    ∃ ch ∈ s'.db.checkins.rows, ch.bears hash = true := by
  have hgrows := hmove.grows
  have hback : TokenUsed hash c.shared.db → ∃ ch ∈ s'.db.checkins.rows, ch.bears hash = true := by
    intro hold
    obtain ⟨ch, hch, hb⟩ := h.backed hold
    exact ⟨ch, hgrows.checkins ch hch, hb⟩
  generalize hp : c.locals i = p at hmove
  cases hmove with
  | read checkins qrTokens committed pending =>
    rw [TokenUsed, qrTokens] at hused
    exact hback hused
  | insert insert =>
    obtain ⟨-, -, -, hdb⟩ := insertCheckin_eq_some insert
    rw [TokenUsed, hdb] at hused
    exact hback hused
  | release spent => exact hback hused
  | @burn target plan checkin rowId _ burnt =>
    obtain ⟨t', ht', hhash, hsome⟩ := hused
    rw [burnt, burnToken_rows, List.mem_map] at ht'
    obtain ⟨t, ht, rfl⟩ := ht'
    by_cases hid : t.id = rowId
    · rw [if_pos hid] at hhash
      have hsound := h.sound i
      rw [hp] at hsound
      obtain ⟨row, hash', hqr, hrowId⟩ := hsound.found target plan checkin rowId rfl
      obtain ⟨u, hu, huid, huhash⟩ := hsound.peeked row hash' hqr
      have htu : t = u := c.shared.db.qrTokens.eq_of_id ht hu
        (hid.trans (hrowId.trans huid.symm))
      have hhash' : hash' = hash := by
        rw [← huhash, ← htu]
        exact hhash
      obtain ⟨hmem, hwritten⟩ := hsound.written plan checkin rfl
      refine ⟨checkin, hgrows.checkins checkin hmem, ?_⟩
      rw [EventCheckin.bears, hwritten, hqr, hhash']
      exact decide_eq_true rfl
    · rw [if_neg hid] at hhash hsome
      exact hback ⟨t, ht, hhash, hsome⟩

theorem TokenMove.committed_cases {s : Service} {p : CheckinPhase}
    (hmove : TokenMove call s p s' p') :
    p'.committed = p.committed ∨
      ∃ plan checkin, p'.committed = some (plan, checkin) ∧
        ∀ ch ∈ s.db.checkins.rows, ch.id ≠ checkin.id := by
  cases hmove with
  | read _ _ committed _ => exact Or.inl committed
  | @insert target plan checkin _ insert =>
    obtain ⟨-, hcheckin, -, -⟩ := insertCheckin_eq_some insert
    refine Or.inr ⟨plan, checkin, rfl, ?_⟩
    intro ch hch hid
    have hlt : ch.id < s.db.checkins.nextId := Table.id_lt_nextId hch
    have hnew : checkin.id = s.db.checkins.nextId := by rw [hcheckin]; rfl
    omega
  | release _ => exact Or.inl rfl
  | burn _ => exact Or.inl rfl

variable [DecidableEq ι]

theorem RaceInvariant.after_turn (env : Env) (calls : ι → CheckinCall) (h : RaceInvariant hash c)
    (i : ι) : RaceInvariant hash (turn (submissions env calls) c i) := by
  have hmove : TokenMove (calls i) c.shared (c.locals i) _ _ :=
    checkinStep_move env (calls i) c.shared (c.locals i)
  have hgrows := hmove.grows
  constructor
  · intro t' ht' hhash
    obtain ⟨t, ht, hth, hts⟩ := hgrows.origin t' ht'
    rw [← hts]
    exact h.issued t ht (hth.trans hhash)
  · intro hbearer
    rcases hmove.accounted h hbearer with hused | hflight | ⟨j, hji, hj⟩
    · exact Or.inl hused
    · exact Or.inr (turn_exists_self _ hflight)
    · exact Or.inr (turn_exists_of_ne _ hji hj)
  · exact hmove.backed h
  · apply turn_forall (P := fun _ s p => CheckinPhase.Sound s.db p) (submissions env calls)
    · exact checkinStep_sound env (calls i) (h.sound i)
    · intro j _
      exact (h.sound j).grows hgrows
  · have hnew : ∀ j plan checkin plan' checkin', j ≠ i →
        (checkinStep env (calls i) c.shared (c.locals i)).2.committed = some (plan, checkin) →
        (c.locals j).committed = some (plan', checkin') → checkin.id ≠ checkin'.id := by
      intro j plan checkin plan' checkin' hji hi hj
      rcases hmove.committed_cases with hsame | ⟨plan₁, checkin₁, hfresh, hids⟩
      · rw [hsame] at hi
        exact h.distinct i j plan checkin plan' checkin' (Ne.symm hji) hi hj
      · rw [hfresh] at hi
        cases hi
        exact Ne.symm (hids checkin' ((h.sound j).written plan' checkin' hj).1)
    intro j k plan checkin plan' checkin' hjk hj hk
    by_cases hji : j = i
    · subst hji
      rw [turn_locals_self] at hj
      rw [turn_locals_of_ne _ _ (Ne.symm hjk)] at hk
      exact hnew k plan checkin plan' checkin' (Ne.symm hjk) hj hk
    · rw [turn_locals_of_ne _ _ hji] at hj
      by_cases hki : k = i
      · subst hki
        rw [turn_locals_self] at hk
        exact Ne.symm (hnew j plan' checkin' plan checkin hji hk hj)
      · rw [turn_locals_of_ne _ _ hki] at hk
        exact h.distinct j k plan checkin plan' checkin' hjk hj hk

end

def CheckinPhase.Won (hash : String) : CheckinPhase → Prop
  | .finished _ checkin => checkin.bears hash = true
  | _ => False

def SingleUse (hash : String) (c : Race ι) : Prop :=
  c.shared.db.checkins.rows.countP (EventCheckin.bears hash) ≤ 1 ∧
    ∀ i j, (c.locals i).Won hash → (c.locals j).Won hash → i = j

/-- A request that is about to insert a check-in with the token does so while the token is
still unused, and while no other request is between its own insert and the consumption. -/
def Exclusive (calls : ι → CheckinCall) (hash : String) (c : Race ι) (i : ι) : Prop :=
  match c.locals i with
  | .ready target plan =>
    plan.qr.map Prod.snd = some hash →
      findCheckin c.shared.db (calls i).eventId target = none →
        ¬ TokenUsed hash c.shared.db ∧ ∀ j, ¬ (c.locals j).InFlight hash
  | _ => True

instance (hash : String) (p : CheckinPhase) : Decidable (p.InFlight hash) :=
  match h : p.committed with
  | none => .isFalse fun ⟨_, _, _, hcommitted, _⟩ => by
      rw [h] at hcommitted
      cases hcommitted
  | some (_, checkin) => decidable_of_iff (p.pending = true ∧ checkin.bears hash = true) <| by
      simp [CheckinPhase.InFlight, CheckinPhase.Bears, h]

instance (hash : String) (db : Database) : Decidable (TokenUsed hash db) := by
  unfold TokenUsed
  infer_instance

instance [Fintype ι] (calls : ι → CheckinCall) (hash : String) (c : Race ι) (i : ι) :
    Decidable (Exclusive calls hash c i) := by
  unfold Exclusive
  split <;> infer_instance

theorem two_le_countP {α : Type} {p : α → Bool} {a b : α} {l : List α} (hne : a ≠ b)
    (ha : a ∈ l) (hb : b ∈ l) (hpa : p a = true) (hpb : p b = true) : 2 ≤ l.countP p := by
  induction l with
  | nil => cases ha
  | cons x l ih =>
    rw [List.countP_cons]
    rcases List.mem_cons.mp ha with rfl | hal
    · have hpos : 0 < l.countP p := by
        rcases List.mem_cons.mp hb with rfl | hbl
        · exact absurd rfl hne
        · exact List.countP_pos_iff.mpr ⟨b, hbl, hpb⟩
      rw [if_pos hpa]
      omega
    · rcases List.mem_cons.mp hb with rfl | hbl
      · have hpos : 0 < l.countP p := List.countP_pos_iff.mpr ⟨a, hal, hpa⟩
        rw [if_pos hpb]
        omega
      · have := ih hal hbl
        omega

theorem RaceInvariant.singleUse_iff {hash : String} {c : Race ι} (h : RaceInvariant hash c) :
    SingleUse hash c ↔ c.shared.db.checkins.rows.countP (EventCheckin.bears hash) ≤ 1 := by
  constructor
  · exact And.left
  · intro hcount
    refine ⟨hcount, ?_⟩
    intro i j hi hj
    by_contra hij
    cases hpi : c.locals i with
    | finished plan checkin =>
      cases hpj : c.locals j with
      | finished plan' checkin' =>
        rw [hpi] at hi
        rw [hpj] at hj
        have hci : (c.locals i).committed = some (plan, checkin) := by rw [hpi]; rfl
        have hcj : (c.locals j).committed = some (plan', checkin') := by rw [hpj]; rfl
        have hne : checkin ≠ checkin' := by
          intro heq
          exact h.distinct i j plan checkin plan' checkin' hij hci hcj (by rw [heq])
        have := two_le_countP hne ((h.sound i).written _ _ hci).1
          ((h.sound j).written _ _ hcj).1 hi hj
        omega
      | _ => simp [hpj, CheckinPhase.Won] at hj
    | _ => simp [hpi, CheckinPhase.Won] at hi

theorem TokenMove.count {hash : String} {c : Race ι} {i : ι} {call : CheckinCall}
    {s' : Service} {p' : CheckinPhase}
    (hmove : TokenMove call c.shared (c.locals i) s' p') :
    s'.db.checkins.rows.countP (EventCheckin.bears hash) =
        c.shared.db.checkins.rows.countP (EventCheckin.bears hash) ∨
      ∃ target plan, c.locals i = .ready target plan ∧ plan.qr.map Prod.snd = some hash ∧
        findCheckin c.shared.db call.eventId target = none ∧
        s'.db.checkins.rows.countP (EventCheckin.bears hash) =
          c.shared.db.checkins.rows.countP (EventCheckin.bears hash) + 1 := by
  generalize hp : c.locals i = p at hmove
  cases hmove with
  | read checkins _ _ _ => exact Or.inl (by rw [checkins])
  | @insert target plan checkin _ insert =>
    obtain ⟨hfresh, hcheckin, hrows, -⟩ := insertCheckin_eq_some insert
    have hbears : checkin.bears hash = decide (plan.qr.map Prod.snd = some hash) := by
      rw [hcheckin]
      rfl
    rw [hrows, List.countP_append, List.countP_singleton, hbears]
    by_cases hqr : plan.qr.map Prod.snd = some hash
    · exact Or.inr ⟨target, plan, rfl, hqr, hfresh, by simp [hqr]⟩
    · exact Or.inl (by simp [hqr])
  | release _ => exact Or.inl rfl
  | burn burnt => exact Or.inl (by rw [burnt]; rfl)

theorem checkinStep_count (env : Env) {hash : String} {call : CheckinCall} {s : Service}
    {target : String} {plan : CheckinPlan} (hqr : plan.qr.map Prod.snd = some hash)
    (hfresh : findCheckin s.db call.eventId target = none) :
    (checkinStep env call s (.ready target plan)).1.db.checkins.rows.countP
        (EventCheckin.bears hash) =
      s.db.checkins.rows.countP (EventCheckin.bears hash) + 1 := by
  obtain ⟨inserted, hinsert, -⟩ := recordCheckin_of_fresh plan hfresh
  obtain ⟨-, -, hrows, -⟩ := insertCheckin_eq_some hinsert
  have hbears : (newCheckin call target plan s.db.checkins.nextId).bears hash = true :=
    decide_eq_true hqr
  simp only [checkinStep, hinsert]
  rw [hrows, List.countP_append, List.countP_singleton, if_pos hbears]

theorem RaceInvariant.count_eq_zero {hash : String} {c : Race ι} (h : RaceInvariant hash c) :
    c.shared.db.checkins.rows.countP (EventCheckin.bears hash) = 0 ↔
      ¬ TokenUsed hash c.shared.db ∧ ∀ j, ¬ (c.locals j).InFlight hash := by
  have hpos : (∃ ch ∈ c.shared.db.checkins.rows, ch.bears hash = true) ↔
      TokenUsed hash c.shared.db ∨ ∃ j, (c.locals j).InFlight hash := by
    constructor
    · exact h.accounted
    · intro hor
      rcases hor with hused | ⟨j, -, plan, checkin, hcommitted, hb⟩
      · exact h.backed hused
      · exact ⟨checkin, ((h.sound j).written plan checkin hcommitted).1, hb⟩
  rw [← not_exists, ← not_or, ← hpos, ← List.countP_pos_iff]
  omega

theorem raceInvariant_start {s : Service} {t : QrToken} (ht : t ∈ s.db.qrTokens.rows)
    (hsingle : t.singleUse = true) (hunused : t.usedAt = none)
    (hnone : ∀ ch ∈ s.db.checkins.rows, ch.qrTokenHash ≠ some t.tokenHash) :
    RaceInvariant t.tokenHash (raceStart s : Race ι) := by
  have hsame : ∀ u ∈ s.db.qrTokens.rows, u.tokenHash = t.tokenHash → u = t := by
    intro u hu hhash
    apply s.db.qrTokens.eq_of_key hu ht (k := t.tokenHash)
    · simp [Row.keys, hhash]
    · simp [Row.keys]
  constructor
  · intro u hu hhash
    rw [hsame u hu hhash]
    exact hsingle
  · rintro ⟨ch, hch, hb⟩
    exact absurd (of_decide_eq_true hb) (hnone ch hch)
  · rintro ⟨u, hu, hhash, hsome⟩
    rw [hsame u hu hhash, hunused] at hsome
    cases hsome
  · intro j
    exact .trivial rfl rfl rfl
  · intro i j plan checkin plan' checkin' _ hi _
    cases hi

variable [DecidableEq ι]

theorem RaceInvariant.exact_step (env : Env) (calls : ι → CheckinCall) {hash : String}
    {c : Race ι} (i : ι) (h : RaceInvariant hash c) (hone : SingleUse hash c) :
    SingleUse hash (turn (submissions env calls) c i) ↔ Exclusive calls hash c i := by
  rw [(h.after_turn env calls i).singleUse_iff]
  rw [h.singleUse_iff] at hone
  by_cases hinserts : ∃ target plan, c.locals i = .ready target plan ∧
      plan.qr.map Prod.snd = some hash ∧
      findCheckin c.shared.db (calls i).eventId target = none
  · obtain ⟨target, plan, hp, hqr, hfresh⟩ := hinserts
    have hcount := checkinStep_count env hqr hfresh
    have hexclusive : Exclusive calls hash c i ↔
        ¬ TokenUsed hash c.shared.db ∧ ∀ j, ¬ (c.locals j).InFlight hash := by
      simp [Exclusive, hp, hqr, hfresh]
    rw [hexclusive, ← h.count_eq_zero, turn_shared, submissions, hp, hcount]
    omega
  · have hexclusive : Exclusive calls hash c i := by
      rw [Exclusive]
      split
      · rename_i target plan hp
        intro hqr hfresh
        exact absurd ⟨target, plan, hp, hqr, hfresh⟩ hinserts
      · trivial
    have hmove : TokenMove (calls i) c.shared (c.locals i) _ _ :=
      checkinStep_move env (calls i) c.shared (c.locals i)
    rcases hmove.count with hsame | ⟨target, plan, hp, hqr, hfresh, -⟩
    · rw [turn_shared, submissions, hsame]
      exact ⟨fun _ => hexclusive, fun _ => hone⟩
    · exact absurd ⟨target, plan, hp, hqr, hfresh⟩ hinserts

/-- However the steps of any requests interleave, a single-use token admits at most one person
exactly as long as every insert with it is exclusive. -/
theorem singleUse_iff_exclusive (env : Env) (calls : ι → CheckinCall) (s : Service)
    (t : QrToken) (ht : t ∈ s.db.qrTokens.rows) (hsingle : t.singleUse = true)
    (hunused : t.usedAt = none)
    (hnone : ∀ ch ∈ s.db.checkins.rows, ch.qrTokenHash ≠ some t.tokenHash)
    (schedule : List ι) :
    Machine.Always (turn (submissions env calls)) (SingleUse t.tokenHash) (raceStart s)
        schedule ↔
      Machine.Guarded (turn (submissions env calls)) (Exclusive calls t.tokenHash) (raceStart s)
        schedule := by
  have hstart : RaceInvariant t.tokenHash (raceStart s : Race ι) :=
    raceInvariant_start ht hsingle hunused hnone
  apply Machine.always_iff_guarded (J := RaceInvariant t.tokenHash)
  · intro c i h
    exact h.after_turn env calls i
  · intro c i h hone
    exact h.exact_step env calls i hone
  · exact hstart
  · have hzero : s.db.checkins.rows.countP (EventCheckin.bears t.tokenHash) = 0 := by
      rw [List.countP_eq_zero]
      intro ch hch hb
      exact hnone ch hch (of_decide_eq_true hb)
    rw [hstart.singleUse_iff]
    exact hzero.le.trans (by decide)

def sampleOpenToken : String := "events:1:0123456789abcdef0123456789abcdef:3600:c32505e0cdc3232c20d60e423dcecb850b290402efbb82a3038bab966731a888"

def sampleOpenRow : QrToken :=
  { id := 1, schoolId := "school-1", eventId := 1
    tokenHash := "709e493e810ed479f26cd0ccedd954e533322638ffcb7cff0c65d53838fa51c9"
    nonce := "0123456789abcdef0123456789abcdef", expiresAt := 3600, issuedByUserId := "coach-1" }

def sampleCrowd : Service :=
  { db := {
      events := .single sampleEvent
      registrations := ⟨[sampleRegistration,
        { sampleRegistration with id := 2, attendeeUserId := "fan-2" }], by decide⟩
      qrTokens := .single sampleOpenRow } }

def sampleSharing (second : Bool) : CheckinCall :=
  { eventId := 1
    payload := { CheckinRequest.empty with
      qrToken := some sampleOpenToken, qrToken_length := by decide +kernel }
    actor := { sampleFan with userId := some (if second then "fan-2" else "fan-1") }
    clock := sampleClock }

theorem singleUse_one_after_the_other :
    Machine.Always (turn (submissions sampleEnv sampleSharing))
      (SingleUse sampleOpenRow.tokenHash) (raceStart sampleCrowd)
      (List.replicate 8 false ++ List.replicate 8 true) := by
  apply (singleUse_iff_exclusive sampleEnv sampleSharing sampleCrowd sampleOpenRow
    (List.mem_singleton.mpr rfl) rfl rfl (by decide) _).mpr
  decide +kernel

/-- Both fans peek before either consumes: both are admitted. -/
theorem singleUse_fails_interleaved :
    ¬ Machine.Always (turn (submissions sampleEnv sampleSharing))
      (SingleUse sampleOpenRow.tokenHash) (raceStart sampleCrowd)
      ([false, false, false, true, true, true] ++ List.replicate 5 false ++
        List.replicate 5 true) := by
  intro h
  exact absurd h.run.1 (by decide +kernel)

end CheckinService
