import Ztcpp.Socket.Session

/-!
# Operations that fail

An operation that returns an error leaves every Socket as it was, unless it is
an `init` that libzt refuses: the fields are written before the answer is known.
-/

namespace Ztcpp

open Interaction

section

def Op.CanFail : Op → Prop
  | .call _ .close => False
  | .call .. | .accept .. => True
  | _ => False

variable [Platform]

/-- An `init` with valid arguments that libzt refuses with one of the two codes
that `init` reports, on an `Impl` that differs from what it writes. -/
def World.RefusedInit (w : World) (l : Step) : Prop :=
  ∃ p d t x res, l.op = .call p (.init d t) ∧ Method.ValidInit d t ∧ w.object? p = some x ∧
    l.events.map ZtsEvent.res = [res] ∧ (res = ztsErrSocket ∨ res = ztsErrService) ∧
    x.impl ≠ ⟨d, t, res⟩

theorem Impl.initResult_errorCode?_ne_none {reply : Status} :
    (initResult reply).errorCode? ≠ none ↔
      reply.res = ztsErrSocket ∨ reply.res = ztsErrService := by
  unfold initResult
  split_ifs with hsocket hservice
  · simp [Result.errorCode?, hsocket]
  · simp [Result.errorCode?, hservice]
  · simp [Result.errorCode?, emptyResultOK, hsocket, hservice]

theorem Method.Effect.eq_self {self self' : Impl} {m : Method} {es : List ZtsEvent}
    (h : Method.Effect self m es self') (hinit : ∀ d t, m ≠ .init d t) (hclose : m ≠ .close) :
    self' = self := by
  cases h with
  | opens d t reply hv => exact absurd rfl (hinit d t)
  | closes reply hopen => exact absurd rfl hclose
  | uses | quiet => rfl

variable {w w' : World} {l : Step}

theorem init_unchanged_iff {p : ℕ} {d : SocketDomain} {type : SocketType}
    (hop : l.op = .call p (.init d type))
    (h : (w.exec l.op).Runs l.events (l.outcome, w')) :
    (l.outcome.hasError → ∀ q, w'.object? q = w.object? q) ↔ ¬ w.RefusedInit l := by
  rw [hop] at h
  obtain ⟨x, impl, hp, hm, rfl⟩ := World.runs_call h
  obtain ⟨r, hrun, hout⟩ := Method.runs_returning.mp hm
  rcases Impl.runs_init hrun with ⟨hinvalid, -, rfl, -⟩ | ⟨hv, reply, hes, rfl, rfl⟩
  · rw [World.setImpl_self hp]
    refine ⟨fun _ ↦ ?_, fun _ _ q ↦ rfl⟩
    rintro ⟨p', d', type', x', res, hop', hv', -⟩
    rw [hop] at hop'
    cases hop'
    exact hinvalid hv'
  · have herror : l.outcome.hasError ↔ reply.res = ztsErrSocket ∨ reply.res = ztsErrService := by
      rw [hout, ← Impl.initResult_errorCode?_ne_none, ← Option.isSome_iff_ne_none]
      rfl
    constructor
    · rintro hkeep ⟨p', d', type', x', res, hop', -, hp', hres, hcode, hne⟩
      rw [hop] at hop'
      cases hop'
      rw [hes] at hres
      cases hres
      have hsame := hkeep (herror.mpr hcode) p
      rw [World.object?_setImpl_self, hp'] at hsame
      rw [hp] at hp'
      cases hp'
      cases x
      cases hsame
      exact hne rfl
    · intro hrefused hfail
      have hcode := herror.mp hfail
      have heq : x.impl = ⟨d, type, reply.res⟩ := by
        by_contra hne
        apply hrefused
        refine ⟨p, d, type, x, reply.res, hop, hv, hp, ?_, hcode, hne⟩
        rw [hes]
        rfl
      rw [← heq, World.setImpl_self hp]
      intro q
      rfl

theorem failed_unchanged_iff (hop : l.op.CanFail)
    (h : (w.exec l.op).Runs l.events (l.outcome, w')) :
    (l.outcome.hasError → ∀ q, w'.object? q = w.object? q) ↔ ¬ w.RefusedInit l := by
  have hother : (∀ p d t, l.op ≠ .call p (.init d t)) → ¬ w.RefusedInit l := by
    rintro hne ⟨p, d, t, x, res, hop', -⟩
    exact hne p d t hop'
  obtain ⟨op, es, o⟩ := l
  cases op with
  | call p m =>
      by_cases hm : ∃ d t, m = .init d t
      · obtain ⟨d, t, rfl⟩ := hm
        exact init_unchanged_iff rfl h
      · have hinit : ∀ d t, m ≠ .init d t := fun d t heq ↦ hm ⟨d, t, heq⟩
        have hclose : m ≠ .close := by
          rintro rfl
          exact hop
        refine iff_of_true ?_ (hother ?_)
        · intro _ q
          obtain ⟨x, impl, hp, hexec, rfl⟩ := World.runs_call h
          rw [(Method.exec_effect hexec).eq_self hinit hclose, World.setImpl_self hp]
        · intro p' d t heq
          cases heq
          exact hinit d t rfl
  | accept p r =>
      refine iff_of_true ?_ (hother ?_)
      · intro hfail q
        obtain ⟨x, hp, hr, reply, -, ⟨report, herror, -, rfl⟩ | ⟨herror, rfl, -⟩⟩ :=
          World.runs_accept h
        · rfl
        · cases hfail
      · intro p' d t heq
        cases heq
  | _ => exact hop.elim

/-- In a run, all operations that fail leave every Socket as it was if and only
if no step of the run is a refused `init`. -/
theorem failed_operations_iff {σ : Type} {S : Service Libzt σ} {s₀ : σ} {steps : List Step}
    {t : Session σ} :
    (∀ u l v, (sessions S).Takes ⟨.start, s₀⟩ steps t u l → (sessions S).Step u l v →
      l.op.CanFail → l.outcome.hasError → ∀ q, v.world.object? q = u.world.object? q) ↔
    ∀ u l, (sessions S).Takes ⟨.start, s₀⟩ steps t u l → ¬ u.world.RefusedInit l := by
  constructor
  · intro h u l htakes hrefused
    have hcanFail : l.op.CanFail := by
      obtain ⟨p, d, type, x, res, hop, -⟩ := hrefused
      rw [hop]
      trivial
    have ⟨before, after, v, _, _, hl, _⟩ := htakes
    exact (failed_unchanged_iff hcanFail hl.1).mp (h u l v htakes hl hcanFail) hrefused
  · intro h u l v htakes hl hcanFail
    exact (failed_unchanged_iff hcanFail hl.1).mpr (h u l htakes)

end

/-- An open Socket is initialised again, libzt refuses, and the Socket has lost
its descriptor, its domain and its type. -/
theorem refused_init_not_unchanged :
    ¬ ∀ (steps : List Step) (t u v : Session Unit) (l : Step),
      (sessions (Service.arbitrary Libzt)).Takes ⟨.start, ()⟩ steps t u l →
      (sessions (Service.arbitrary Libzt)).Step u l v → l.op.CanFail → l.outcome.hasError →
      ∀ q, v.world.object? q = u.world.object? q := by
  intro h
  obtain ⟨before, hopened⟩ : ∃ steps, Reaches (Service.arbitrary Libzt) () steps
      ⟨.opened .internetProtocolIPv4 .stream 3, ()⟩ :=
    opened_reached (Service.arbitrary Libzt) (by decide) trivial
  have hexec : ((World.opened .internetProtocolIPv4 .stream 3).exec
      (.call 0 (.init .internetProtocolIPv6 .datagram))).follow (Call.answer ztsErrSocket) =
      some (_, _, _) := rfl
  have hagain := step_of_follow (S := Service.arbitrary Libzt) (s := ()) hexec
    (Service.arbitrary_admitsAll _ _)
  have hsame := h _ _ _ _ _ ⟨_, [], _, rfl, hopened, hagain, .nil⟩ hagain trivial rfl 0
  cases hsame

end Ztcpp
