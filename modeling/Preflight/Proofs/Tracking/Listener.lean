import Mathlib.Data.Seq.Basic
import Preflight.Tracking.Status

/-!
Following a sent call. A listener in the background takes updates off a stream, one at a time, while
others read the status. The stream may be without end, and the steps of the listener and the reads
come in any order. What a read sees depends only on what was consumed by then: the first terminal
update decides it, and nothing is consumed behind that one.
-/

namespace Preflight

/-! ## 1. The listener -/

/-- The updates of a call in their order, finitely many or without end. -/
abbrev Updates := Stream'.Seq Status

def Notice.update? : Notice → Option Status
  | .update status => some status
  | .ended => none

/-- What the listener of a call knows, and what it did so far. -/
structure Listener where
  tracker : Tracker := .fresh
  -- the updates that were consumed, the first one first
  consumed : List Status := []
  noticedEnd : Bool := false
  lines : List Log.Entry := []

namespace Listener

def fresh : Listener := {}

/-- The notice that the stream holds at a place. Behind its last update it only ends. -/
def noticeAt (updates : Updates) (place : Nat) : Notice :=
  match updates.get? place with
  | some status => .update status
  | none => .ended

def take (hash : String) (l : Listener) (n : Notice) : Listener where
  tracker := l.tracker.consume n
  consumed := l.consumed ++ n.update?.toList
  noticedEnd := n.update?.isNone
  lines := l.lines ++ (n.line? hash).toList

/-- Takes a notice in, unless the listener has stopped listening. -/
def hear (hash : String) (l : Listener) (n : Notice) : Listener :=
  if l.tracker.closed then l else l.take hash n

/-- One step of the listener of the call with a hash. -/
def step (updates : Updates) (hash : String) (l : Listener) : Listener :=
  l.hear hash (noticeAt updates l.consumed.length)

def afterSteps (updates : Updates) (hash : String) : Nat → Listener
  | 0 => fresh
  | n + 1 => (afterSteps updates hash n).step updates hash

/-! ## 2. What the updates tell -/

def IsOpen (consumed : List Status) : Prop := ∀ status ∈ consumed, status.isTerminal = false

/-- The status that follows from the updates that were consumed, and from whether the end of the
stream was noticed behind them: the first terminal update, or else the end, or else the last
update. -/
def told (consumed : List Status) (noticedEnd : Bool) : Status :=
  match consumed.find? Status.isTerminal with
  | some first => first
  | none => if noticedEnd then .ended else consumed.getLastD .pending

theorem IsOpen.find?_eq_none {consumed : List Status} (h : IsOpen consumed) :
    consumed.find? Status.isTerminal = none := by
  apply List.find?_eq_none.mpr
  intro status hstatus
  rw [h status hstatus]
  exact Bool.false_ne_true

theorem told_of_isOpen {consumed : List Status} (h : IsOpen consumed) (noticedEnd : Bool) :
    told consumed noticedEnd = if noticedEnd then .ended else consumed.getLastD .pending := by
  rw [told, h.find?_eq_none]

-- Behind open updates the next one is the status, whether it is terminal or not.
theorem told_concat {consumed : List Status} (h : IsOpen consumed) (status : Status) :
    told (consumed ++ [status]) false = status := by
  rw [told, List.find?_append, h.find?_eq_none]
  cases hs : status.isTerminal with
  | true => simp [hs]
  | false => simp [hs]

theorem told_of_not_isOpen {consumed : List Status} (h : ¬ IsOpen consumed) (noticedEnd : Bool) :
    (told consumed noticedEnd).isTerminal = true := by
  rw [told]
  cases hfirst : consumed.find? Status.isTerminal with
  | some first => exact List.find?_some hfirst
  | none =>
    refine absurd (fun status hstatus => ?_) h
    exact Bool.eq_false_iff.mpr (List.find?_eq_none.mp hfirst status hstatus)

-- the line that is logged for an update of the call with a hash
def updateLine (hash : String) (status : Status) : Log.Entry :=
  ⟨.debug, Log.statusTopic, s!"Extrinsic {hash}: {status.shown}"⟩

/-! ## 3. What every step keeps -/

/-- A listener that took the updates of a stream in their order, up to the first terminal one. -/
structure Follows (updates : Updates) (hash : String) (l : Listener) : Prop where
  in_order : ∀ n < l.consumed.length, l.consumed[n]? = updates.get? n
  open_before : IsOpen l.consumed.dropLast
  end_noticed : l.noticedEnd = true → updates.get? l.consumed.length = none ∧ IsOpen l.consumed
  closed_iff : l.tracker.closed = true ↔ l.noticedEnd = true ∨ ¬ IsOpen l.consumed
  status_eq : l.tracker.status = told l.consumed l.noticedEnd
  lines_eq : l.lines = l.consumed.map (updateLine hash)

variable {updates : Updates} {hash : String} {l : Listener}

theorem follows_fresh : fresh.Follows updates hash := by
  refine ⟨?_, ?_, ?_, ?_, rfl, rfl⟩
  · intro n hn
    cases hn
  · intro status hstatus
    cases hstatus
  · intro hend
    cases hend
  · simp [fresh, Tracker.fresh, IsOpen]

theorem Follows.open_of_not_closed (h : l.Follows updates hash) (hc : ¬ l.tracker.closed = true) :
    l.noticedEnd = false ∧ IsOpen l.consumed := by
  have hopen := mt h.closed_iff.mpr hc
  push Not at hopen
  exact ⟨Bool.eq_false_iff.mpr hopen.1, hopen.2⟩

theorem isOpen_append_singleton {consumed : List Status} {status : Status} (h : IsOpen consumed) :
    IsOpen (consumed ++ [status]) ↔ status.isTerminal = false := by
  constructor
  · intro hall
    exact hall status (List.mem_append_right _ (List.mem_singleton_self _))
  · intro hs other hother
    rcases List.mem_append.mp hother with hbefore | hlast
    · exact h other hbefore
    · rw [List.mem_singleton.mp hlast, hs]

theorem Follows.take_update (h : l.Follows updates hash) (hc : ¬ l.tracker.closed = true)
    {status : Status} (hnext : updates.get? l.consumed.length = some status) :
    (l.take hash (.update status)).Follows updates hash := by
  rcases h.open_of_not_closed hc with ⟨hend, hopen⟩
  have hconsume : l.tracker.consume (.update status) = ⟨status, status.isTerminal⟩ := if_neg hc
  refine ⟨?_, ?_, ?_, ?_, ?_, ?_⟩
  · intro n hn
    show (l.consumed ++ [status])[n]? = updates.get? n
    by_cases hn' : n < l.consumed.length
    · rw [List.getElem?_append_left hn', h.in_order n hn']
    · have hlast : n = l.consumed.length := by
        simp only [take, Notice.update?, Option.toList, List.length_append,
          List.length_singleton] at hn
        omega
      rw [hlast, List.getElem?_concat_length, hnext]
  · show IsOpen (l.consumed ++ [status]).dropLast
    rwa [List.dropLast_concat]
  · intro hnoticed
    cases hnoticed
  · show (l.tracker.consume (.update status)).closed = true ↔ false = true ∨
      ¬ IsOpen (l.consumed ++ [status])
    rw [hconsume, isOpen_append_singleton hopen]
    simp
  · show (l.tracker.consume (.update status)).status = told (l.consumed ++ [status]) false
    rw [hconsume, told_concat hopen]
  · show l.lines ++ [updateLine hash status] = (l.consumed ++ [status]).map (updateLine hash)
    rw [List.map_append, h.lines_eq, List.map_singleton]

theorem Follows.take_ended (h : l.Follows updates hash) (hc : ¬ l.tracker.closed = true)
    (hnext : updates.get? l.consumed.length = none) :
    (l.take hash .ended).Follows updates hash := by
  rcases h.open_of_not_closed hc with ⟨hend, hopen⟩
  have hconsume : l.tracker.consume .ended = ⟨.ended, true⟩ := if_neg hc
  have hsame : (l.take hash .ended).consumed = l.consumed := List.append_nil _
  refine ⟨?_, ?_, ?_, ?_, ?_, ?_⟩
  · rw [hsame]
    exact h.in_order
  · rw [hsame]
    exact h.open_before
  · rw [hsame]
    exact fun _ => ⟨hnext, hopen⟩
  · show (l.tracker.consume .ended).closed = true ↔ true = true ∨ _
    simp [hconsume]
  · rw [hsame, told_of_isOpen hopen]
    show (l.tracker.consume .ended).status = .ended
    rw [hconsume]
  · rw [hsame]
    show l.lines ++ [] = _
    rw [List.append_nil, h.lines_eq]

theorem Follows.step (h : l.Follows updates hash) : (l.step updates hash).Follows updates hash := by
  rw [Listener.step, hear]
  split
  · exact h
  · rename_i hc
    unfold noticeAt
    cases hnext : updates.get? l.consumed.length with
    | some status => exact h.take_update hc hnext
    | none => exact h.take_ended hc hnext

theorem follows_afterSteps (n : Nat) : (afterSteps updates hash n).Follows updates hash := by
  induction n with
  | zero => exact follows_fresh
  | succ n ih => exact ih.step

/-! ## 4. The end of listening -/

theorem getLastD_pending (consumed : List Status) :
    consumed.getLastD .pending = .pending ∨ consumed.getLastD .pending ∈ consumed :=
  List.mem_cons.mp List.getLastD_mem_cons

theorem told_isTerminal_iff {consumed : List Status} {noticedEnd : Bool} :
    (told consumed noticedEnd).isTerminal = true ↔ noticedEnd = true ∨ ¬ IsOpen consumed := by
  by_cases hopen : IsOpen consumed
  · rw [told_of_isOpen hopen]
    have hlast : (consumed.getLastD .pending).isTerminal = false := by
      rcases getLastD_pending consumed with hnone | hmem
      · rw [hnone]
        rfl
      · exact hopen _ hmem
    cases noticedEnd with
    | true => exact iff_of_true rfl (.inl rfl)
    | false =>
      rw [if_neg Bool.false_ne_true, hlast]
      simp [hopen]
  · exact iff_of_true (told_of_not_isOpen hopen noticedEnd) (.inr hopen)

theorem Follows.closed_iff_isTerminal (h : l.Follows updates hash) :
    l.tracker.closed = true ↔ l.tracker.status.isTerminal = true := by
  rw [h.closed_iff, h.status_eq, told_isTerminal_iff]

theorem afterSteps_of_closed {m n : Nat}
    (h : (afterSteps updates hash m).tracker.closed = true) (hmn : m ≤ n) :
    afterSteps updates hash n = afterSteps updates hash m := by
  induction n, hmn using Nat.le_induction with
  | base => rfl
  | succ n hmn ih => rw [afterSteps, ih, Listener.step, hear, if_pos h]

-- Every step of a listener that goes on consumes an update.
theorem length_consumed_of_not_closed {n : Nat}
    (h : ¬ (afterSteps updates hash n).tracker.closed = true) :
    (afterSteps updates hash n).consumed.length = n := by
  induction n with
  | zero => rfl
  | succ n ih =>
    have hbefore : ¬ (afterSteps updates hash n).tracker.closed = true := by
      intro hclosed
      rw [afterSteps_of_closed hclosed (Nat.le_succ n)] at h
      exact h hclosed
    have hopen := (follows_afterSteps (n + 1)).open_of_not_closed h
    rw [afterSteps, Listener.step, hear, if_neg hbefore] at hopen ⊢
    cases hnotice : noticeAt updates (afterSteps updates hash n).consumed.length with
    | update status =>
      show (_ ++ [status]).length = n + 1
      rw [List.length_append, ih hbefore]
      rfl
    | ended =>
      rw [hnotice] at hopen
      cases hopen.1

end Listener

end Preflight
