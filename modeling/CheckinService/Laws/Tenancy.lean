import CheckinService.Laws.Operations
import CheckinService.Lib.Machine

namespace CheckinService

open Relational

structure Tenanted (db : Database) : Prop where
  registrations : ∀ r ∈ db.registrations.rows, Refers db r.eventId r.schoolId
  checkins : ∀ c ∈ db.checkins.rows,
    Refers db c.eventId c.schoolId ∧ Registered db c.eventId c.attendeeUserId
  invitations : ∀ i ∈ db.invitations.rows, Refers db i.eventId i.schoolId
  qrTokens : ∀ t ∈ db.qrTokens.rows, t.eventTable = .events → Refers db t.eventId t.schoolId

def KeepsEvents (db db' : Database) : Prop :=
  ∀ e ∈ db.events.rows, ∃ e' ∈ db'.events.rows, Event.Same e e'

section

variable {created : Event → Prop} {groups : Table SchoolAdminGroup} {db db' : Database}

theorem Effect.refers {eventId : Int} {schoolId : String} (h : Effect created groups db db')
    (hr : Refers db eventId schoolId) : Refers db' eventId schoolId := by
  obtain ⟨e, he, hid, hschool⟩ := hr
  obtain ⟨e', he', hsame⟩ := h.events.keeps e he
  exact ⟨e', he', hsame.id.trans hid, hsame.schoolId.trans hschool⟩

theorem Effect.registered {eventId : Int} {attendee : String} (h : Effect created groups db db')
    (hr : Registered db eventId attendee) : Registered db' eventId attendee := by
  obtain ⟨r, hr, hevent, hattendee⟩ := hr
  obtain ⟨r', hr', hsame⟩ := h.registrations.keeps r hr
  simp only [Table.Keeps, EventRegistration.reference, Prod.mk.injEq] at hsame
  exact ⟨r', hr', hsame.1.trans hevent, hsame.2.2.trans hattendee⟩

theorem Effect.tenanted (h : Effect created groups db db') (ht : Tenanted db) : Tenanted db' where
  registrations := by
    refine h.registrations.all ht.registrations ?_ ?_
    · intro r r' hsame hr
      simp only [Table.Keeps, EventRegistration.reference, Prod.mk.injEq] at hsame
      rw [hsame.1, hsame.2.1]
      exact h.refers hr
    · intro r hr
      exact h.refers hr
  checkins := by
    refine h.checkins.all ht.checkins ?_ ?_
    · intro c c' hsame hc
      simp only [Table.Keeps, EventCheckin.reference, Prod.mk.injEq] at hsame
      rw [hsame.1, hsame.2.1, hsame.2.2]
      exact ⟨h.refers hc.1, h.registered hc.2⟩
    · intro c hc
      exact ⟨h.refers hc.1, h.registered hc.2⟩
  invitations := by
    refine h.invitations.all ht.invitations ?_ ?_
    · intro i i' hsame hi
      simp only [Table.Keeps, EventInvitation.reference, Prod.mk.injEq] at hsame
      rw [hsame.1, hsame.2]
      exact h.refers hi
    · intro i hi
      exact h.refers hi
  qrTokens := by
    refine h.qrTokens.all ht.qrTokens ?_ ?_
    · intro t t' hsame hr htable
      simp only [Table.Keeps, QrToken.reference, Prod.mk.injEq] at hsame
      rw [hsame.1] at htable
      rw [hsame.2.1, hsame.2.2]
      exact h.refers (hr htable)
    · intro t hr _
      exact h.refers hr

theorem tenanted_empty : Tenanted {} := by
  constructor <;> intro row hrow <;> cases hrow

end

/-- In every state of every run from an empty database, references and tenants agree; and no
operation, in any state, takes an event away or rewrites what identifies it. -/
theorem tenanted_always (env : Env) (limiter : RateLimiter) (ops : List Operation) :
    Machine.Always (serve env) (fun s => Tenanted s.db) { limiter := limiter } ops ∧
      ∀ s op, KeepsEvents s.db (serve env s op).db := by
  constructor
  · apply Machine.always_invariant
    · intro s op h
      exact (serve_effect env s op).tenanted h
    · exact tenanted_empty
  · intro s op
    exact (serve_effect env s op).events.keeps

end CheckinService
