import Mathlib.Data.List.Induction
import Preflight.Proofs.Tracking.Listener

/-!
Readers beside the listener of a call. An interleaving is a list of moves, each of which is a step of
the listener or a read of the status. However the moves are mixed, a read sees what the updates tell
that were consumed by then, and once it saw a terminal status, so does every later one.
-/

namespace Preflight

open Listener

/-! ## 1. Moves -/

/-- What happens next to a call. -/
inductive Move where
  | listen
  -- somebody reads the status
  | read
  deriving DecidableEq, Repr

/-- A listener and the readers beside it. -/
structure Scene where
  listener : Listener := .fresh
  -- what the readers saw, the first read first
  reads : List Status := []

namespace Scene

variable (updates : Updates) (hash : String)

def move (s : Scene) : Move → Scene
  | .listen => { s with listener := s.listener.step updates hash }
  | .read => { s with reads := s.reads ++ [s.listener.tracker.status] }

def moves (s : Scene) (ms : List Move) : Scene := ms.foldl (move updates hash) s

/-- What an interleaving comes to. -/
def after (ms : List Move) : Scene := moves updates hash {} ms

theorem moves_append (s : Scene) (before later : List Move) :
    moves updates hash s (before ++ later)
      = moves updates hash (moves updates hash s before) later :=
  List.foldl_append

theorem listener_moves (n : Nat) (reads : List Status) (ms : List Move) :
    (moves updates hash ⟨afterSteps updates hash n, reads⟩ ms).listener
      = afterSteps updates hash (n + ms.count .listen) := by
  induction ms generalizing n reads with
  | nil => rfl
  | cons m ms ih =>
    cases m with
    | listen =>
      show (moves updates hash ⟨afterSteps updates hash (n + 1), reads⟩ ms).listener = _
      rw [ih, List.count_cons_self, Nat.add_assoc, Nat.add_comm 1]
    | read =>
      show (moves updates hash ⟨afterSteps updates hash n, _⟩ ms).listener = _
      rw [ih, List.count_cons_of_ne (by decide)]

/-- Reads do not disturb the listener. -/
theorem listener_after (ms : List Move) :
    (after updates hash ms).listener = afterSteps updates hash (ms.count .listen) := by
  have h := listener_moves updates hash 0 [] ms
  rwa [Nat.zero_add] at h

theorem reads_moves (s : Scene) (ms : List Move) :
    s.reads <+: (moves updates hash s ms).reads := by
  induction ms generalizing s with
  | nil => exact List.prefix_rfl
  | cons m ms ih =>
    have hstep : s.reads <+: (s.move updates hash m).reads := by
      cases m with
      | listen => exact List.prefix_rfl
      | read => exact List.prefix_append _ _
    exact hstep.trans (ih _)

theorem reads_moves_of_closed (s : Scene) (ms : List Move)
    (h : s.listener.tracker.closed = true) :
    (moves updates hash s ms).reads
      = s.reads ++ List.replicate (ms.count .read) s.listener.tracker.status := by
  induction ms generalizing s with
  | nil => simp [moves]
  | cons m ms ih =>
    cases m with
    | listen =>
      -- nothing is taken off the stream any more
      have hsame : s.move updates hash .listen = s := by
        show { s with listener := s.listener.step updates hash } = s
        rw [Listener.step, hear, if_pos h]
      show (moves updates hash (s.move updates hash .listen) ms).reads = _
      rw [hsame, ih s h, List.count_cons_of_ne (by decide)]
    | read =>
      show (moves updates hash (s.move updates hash .read) ms).reads = _
      rw [ih (s.move updates hash .read) h, List.count_cons_self, List.replicate_succ]
      exact List.append_assoc _ _ _

/-! ## 2. What reads see -/

theorem told_eq_finalized {consumed : List Status} {noticedEnd : Bool}
    (h : told consumed noticedEnd = .finalized) : .finalized ∈ consumed := by
  rw [told] at h
  cases hfirst : consumed.find? Status.isTerminal with
  | some first =>
    rw [hfirst] at h
    rw [← show first = .finalized from h]
    exact List.mem_of_find?_eq_some hfirst
  | none =>
    rw [hfirst] at h
    cases noticedEnd with
    | true => cases h
    | false =>
      have hlast : consumed.getLastD .pending = .finalized := h
      rcases getLastD_pending consumed with hnone | hmem
      · rw [hlast] at hnone
        cases hnone
      · rwa [hlast] at hmem

theorem mem_of_mem_consumed {l : Listener} (h : l.Follows updates hash) {status : Status}
    (hmem : status ∈ l.consumed) : status ∈ updates := by
  rcases List.getElem?_of_mem hmem with ⟨n, hn⟩
  have hlt : n < l.consumed.length := (List.getElem?_eq_some_iff.mp hn).1
  rw [h.in_order n hlt] at hn
  exact Stream'.Seq.get?_mem hn

theorem not_finalized_of_mem_reads (h : Status.finalized ∉ updates) (ms : List Move) :
    ∀ status ∈ (after updates hash ms).reads, status ≠ .finalized := by
  induction ms using List.reverseRecOn with
  | nil =>
    intro status hstatus
    cases hstatus
  | append_singleton ms m ih =>
    rw [after, moves_append]
    cases m with
    | listen => exact ih
    | read =>
      intro status hstatus
      rcases List.mem_append.mp hstatus with hbefore | hlast
      · exact ih status hbefore
      · -- the listener saw nothing else than what is on the stream
        rintro rfl
        have hl : (after updates hash ms).listener.Follows updates hash := by
          rw [listener_after]
          exact follows_afterSteps _
        have hread := List.mem_singleton.mp hlast
        change Status.finalized = (after updates hash ms).listener.tracker.status at hread
        rw [hl.status_eq] at hread
        exact h (mem_of_mem_consumed updates hash hl (told_eq_finalized hread.symm))

theorem consumed_eq_take {l : Listener} (h : l.Follows updates hash) :
    l.consumed = updates.take l.consumed.length := by
  apply List.ext_getElem?
  intro n
  rw [Stream'.Seq.getElem?_take]
  by_cases hn : n < l.consumed.length
  · rw [if_pos hn, h.in_order n hn]
  · rw [if_neg hn, List.getElem?_eq_none (by omega)]

/-- A read of the status of a call, between the moves before it and those behind it. Among the
updates that were consumed by then it sees the first terminal one, or else the end of the stream if
that was noticed, or else the last update, or that the call is pending if there is none. If what it
sees is terminal, every later read sees the same. What was consumed and logged are the first updates
of the stream, one with each step of the listener, and none behind the first terminal one. A call
that is not finalized on its stream never reads as finalized. -/
theorem reads_told (before later : List Move) :
    let l := (after updates hash before).listener
    let status := told l.consumed l.noticedEnd
    let reads := (after updates hash before).reads
    let allReads := (after updates hash (before ++ .read :: later)).reads
    (reads ++ [status] <+: allReads) ∧
    (status.isTerminal = true →
      allReads = reads ++ List.replicate (later.count .read + 1) status) ∧
    l.consumed = updates.take l.consumed.length ∧
    (status.isTerminal = false → l.consumed.length = before.count .listen) ∧
    (∀ other ∈ l.consumed.dropLast, other.isTerminal = false) ∧
    (l.noticedEnd = true → updates.TerminatedAt l.consumed.length) ∧
    l.lines = l.consumed.map (updateLine hash) ∧
    (Status.finalized ∉ updates →
      ∀ seen ∈ allReads, seen ≠ .finalized ∧ seen.reply ≠ .ok true) := by
  intro l status reads allReads
  have hafter : l = afterSteps updates hash (before.count .listen) :=
    listener_after updates hash before
  have hl : l.Follows updates hash := by
    rw [hafter]
    exact follows_afterSteps _
  have hstatus : l.tracker.status = status := hl.status_eq
  have hall : allReads = (moves updates hash ⟨l, reads ++ [status]⟩ later).reads := by
    show (after updates hash (before ++ .read :: later)).reads = _
    rw [after, moves_append, ← hstatus]
    rfl
  refine ⟨?_, ?_, consumed_eq_take updates hash hl, ?_, hl.open_before, ?_, hl.lines_eq, ?_⟩
  · rw [hall]
    exact reads_moves updates hash ⟨l, reads ++ [status]⟩ later
  · intro hterminal
    have hclosed : l.tracker.closed = true := by
      rw [hl.closed_iff_isTerminal, hstatus]
      exact hterminal
    rw [hall, reads_moves_of_closed updates hash ⟨l, reads ++ [status]⟩ later hclosed, hstatus,
      List.replicate_succ]
    exact List.append_assoc _ _ _
  · intro hopen
    have hlistens : ¬ (afterSteps updates hash (before.count .listen)).tracker.closed = true := by
      rw [← hafter, hl.closed_iff_isTerminal, hstatus, hopen]
      exact Bool.false_ne_true
    rw [hafter]
    exact length_consumed_of_not_closed hlistens
  · intro hend
    exact (hl.end_noticed hend).1
  · intro hnever seen hseen
    have hne := not_finalized_of_mem_reads updates hash hnever _ seen hseen
    refine ⟨hne, fun hreply => ?_⟩
    cases seen with
    | pending => cases hreply
    | inBlock => cases hreply
    | finalized => exact hne rfl
    | failed reason => cases hreply

/-! ## 3. Examples -/

/-- Finalized with a regress before it and more behind it, which is not consumed any more. -/
def regressing : Updates := Stream'.Seq.ofList [.inBlock, .pending, .finalized, .failed "late"]

-- ends in a block
def unfinished : Updates := Stream'.Seq.ofList [.inBlock]

/-- On the first stream the second read decides all later ones. On the second one the end of the
stream is noticed, and the call never reads as finalized. -/
theorem reads_told_regressing :
    (told [.inBlock, .pending, .finalized] false).isTerminal = true ∧
    (after regressing "0x01" [.listen, .read, .listen, .listen, .read, .listen, .read]).reads
      = [.inBlock, .finalized, .finalized] ∧
    (told [.inBlock] false).isTerminal = false ∧
    (after unfinished "0x01" [.listen]).listener.consumed.length = 1 ∧
    (after unfinished "0x01" [.listen, .listen]).listener.noticedEnd = true ∧
    unfinished.TerminatedAt 1 ∧
    Status.finalized ∉ unfinished ∧
    ∀ seen ∈ (after unfinished "0x01" [.listen, .listen, .read, .listen]).reads,
      seen ≠ .finalized ∧ seen.reply ≠ .ok true := by
  have hnever : Status.finalized ∉ unfinished := by
    intro hmem
    rcases Stream'.Seq.mem_iff_exists_get?.mp hmem with ⟨n, hn⟩
    match n with
    | 0 => cases hn
    | n + 1 => cases hn
  have hfirst := reads_told regressing "0x01" [.listen, .read, .listen, .listen] [.listen, .read]
  have hopen := reads_told unfinished "0x01" [.listen] []
  have hended := reads_told unfinished "0x01" [.listen, .listen] [.listen]
  exact ⟨rfl, hfirst.2.1 rfl, rfl, hopen.2.2.2.1 rfl, rfl, hended.2.2.2.2.2.1 rfl, hnever,
    hended.2.2.2.2.2.2.2 hnever⟩

/-- That nothing was consumed does not make a call pending: a stream may end at once. -/
theorem not_pending_of_empty_stream :
    (after .nil "0x01" [.listen]).listener.consumed = [] ∧
    (after .nil "0x01" [.listen, .read]).reads
      = [.failed "status updates ended unexpectedly"] ∧
    (after .nil "0x01" [.listen, .read]).reads ≠ [.pending] := by
  have hread : (after .nil "0x01" [.listen, .read]).reads
      = [.failed "status updates ended unexpectedly"] := rfl
  refine ⟨rfl, hread, ?_⟩
  rw [hread]
  decide

end Scene

end Preflight
