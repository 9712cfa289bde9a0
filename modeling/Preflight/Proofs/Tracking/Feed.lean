import Mathlib.Order.Monotone.Defs
import Preflight.Proofs.Tracking.Listener
import Preflight.Tracking.Timeline

/-!
The listener of a call on a clock: by each time it has made some number of steps. A timeline, on which
each update comes some time after the one before it, is one such feed; what it says of the status and
of the logged lines at a time is what the listener knows and logged after the steps that are due.
-/

namespace Preflight

open Listener

/-! ## 1. Feeds -/

/-- The stream of updates of a call, and how many steps its listener has made by each time. A stream
that is silent from some time on lets it make no further step. -/
structure Feed where
  hash : String
  updates : Updates
  steps : Nat → Nat
  steps_mono : Monotone steps

namespace Feed

variable (f : Feed)

def listenerAt (time : Nat) : Listener := afterSteps f.updates f.hash (f.steps time)

def statusAt (time : Nat) : Status := (f.listenerAt time).tracker.status

/-- Checks of the call by a wait that starts at a time. A check takes no time. -/
def watchFrom (time : Nat) : Watch Unit :=
  fun _ elapsed => ({ reply := (f.statusAt (time + elapsed)).reply }, ())

/-- A terminal status is there to stay. -/
theorem statusAt_of_isTerminal {a b : Nat} (h : (f.statusAt a).isTerminal = true) (hab : a ≤ b) :
    f.statusAt b = f.statusAt a := by
  have hclosed : (f.listenerAt a).tracker.closed = true :=
    (follows_afterSteps (f.steps a)).closed_iff_isTerminal.mpr h
  rw [statusAt, listenerAt, afterSteps_of_closed hclosed (f.steps_mono hab)]
  rfl

end Feed

/-! ## 2. Steps as a fold -/

namespace Listener

variable (updates : Updates) (hash : String)

theorem hear_of_closed {l : Listener} (h : l.tracker.closed = true) (n : Notice) :
    l.hear hash n = l := if_pos h

theorem afterSteps_eq_foldl (n : Nat) :
    afterSteps updates hash n
      = ((List.range n).map (noticeAt updates)).foldl (hear hash) fresh := by
  induction n with
  | zero => rfl
  | succ n ih =>
    rw [List.range_succ, List.map_append, List.foldl_append, ← ih, afterSteps, Listener.step]
    by_cases hclosed : (afterSteps updates hash n).tracker.closed = true
    · rw [hear_of_closed hash hclosed]
      exact (hear_of_closed hash hclosed _).symm
    · rw [length_consumed_of_not_closed hclosed]
      rfl

theorem tracker_hear (l : Listener) (n : Notice) :
    (l.hear hash n).tracker = l.tracker.consume n := by
  by_cases hclosed : l.tracker.closed = true
  · rw [hear_of_closed hash hclosed, Tracker.consume, if_pos hclosed]
  · rw [hear, if_neg hclosed]
    rfl

theorem tracker_foldl_hear (l : Listener) (ns : List Notice) :
    (ns.foldl (hear hash) l).tracker = l.tracker.consumeAll ns := by
  induction ns generalizing l with
  | nil => rfl
  | cons n ns ih =>
    show (ns.foldl (hear hash) (l.hear hash n)).tracker = (l.tracker.consume n).consumeAll ns
    rw [ih, tracker_hear]

theorem foldl_hear_of_closed {l : Listener} (h : l.tracker.closed = true) (ns : List Notice) :
    ns.foldl (hear hash) l = l := by
  induction ns with
  | nil => rfl
  | cons n ns ih => rw [List.foldl_cons, hear_of_closed hash h, ih]

-- A listener logs the notices up to the last one that it takes in.
theorem lines_foldl_hear (l : Listener) (ns : List (Nat × Notice))
    (h : l.tracker.closed = false) :
    ((ns.map Prod.snd).foldl (hear hash) l).lines
      = l.lines ++ (Timeline.upToLast ns).filterMap fun n => n.2.line? hash := by
  induction ns generalizing l with
  | nil => exact (List.append_nil _).symm
  | cons n ns ih =>
    have hopen : ¬ l.tracker.closed = true := by rw [h]; exact Bool.false_ne_true
    have hhear : l.hear hash n.2 = l.take hash n.2 := if_neg hopen
    have hclosed : (l.take hash n.2).tracker.closed = n.2.isLast := by
      show (l.tracker.consume n.2).closed = _
      rw [Tracker.consume, if_neg hopen]
    rw [List.map_cons, List.foldl_cons, hhear, Timeline.upToLast]
    cases hlast : n.2.isLast with
    | true =>
      rw [hlast] at hclosed
      rw [foldl_hear_of_closed hash hclosed, if_pos rfl]
      cases hline : n.2.line? hash <;> simp [take, hline]
    | false =>
      rw [hlast] at hclosed
      rw [ih _ hclosed, if_neg Bool.false_ne_true]
      cases hline : n.2.line? hash <;> simp [take, hline]

end Listener

/-! ## 3. Timelines -/

namespace Timeline

def IsChronological (ns : List (Nat × Notice)) : Prop := ns.Pairwise fun a b => a.1 ≤ b.1

def isDue (now : Nat) (n : Nat × Notice) : Bool := n.1 ≤ now

theorem le_of_mem_noticesFrom {ends : Bool} {time : Nat} {updates : List (Nat × Status)}
    {n : Nat × Notice} (h : n ∈ noticesFrom ends time updates) : time ≤ n.1 := by
  induction updates generalizing time with
  | nil =>
    cases ends with
    | true => rw [List.mem_singleton.mp h]
    | false => cases h
  | cons update rest ih =>
    rcases List.mem_cons.mp h with hfirst | hrest
    · rw [hfirst]
      exact Nat.le_add_right _ _
    · exact Nat.le_trans (Nat.le_add_right _ _) (ih hrest)

theorem isChronological_noticesFrom (ends : Bool) (time : Nat) (updates : List (Nat × Status)) :
    IsChronological (noticesFrom ends time updates) := by
  induction updates generalizing time with
  | nil =>
    cases ends with
    | true => exact List.pairwise_singleton _ _
    | false => exact List.Pairwise.nil
  | cons update rest ih =>
    exact List.pairwise_cons.mpr ⟨fun n hn => le_of_mem_noticesFrom hn, ih _⟩

theorem filter_isDue_of_not {now : Nat} {n : Nat × Notice} {ns : List (Nat × Notice)}
    (h : IsChronological (n :: ns)) (hn : ¬ isDue now n = true) :
    (n :: ns).filter (isDue now) = [] := by
  apply List.filter_eq_nil_iff.mpr
  intro other hother hdue
  have hlate : ¬ n.1 ≤ now := fun hle => hn (decide_eq_true hle)
  have hnow : other.1 ≤ now := of_decide_eq_true hdue
  rcases List.mem_cons.mp hother with rfl | hrest
  · exact hlate hnow
  · exact hlate (Nat.le_trans ((List.pairwise_cons.mp h).1 other hrest) hnow)

-- What is due comes first.
theorem filter_isDue_prefix {ns : List (Nat × Notice)} (h : IsChronological ns) (now : Nat) :
    ns.filter (isDue now) <+: ns := by
  induction ns with
  | nil => exact List.prefix_rfl
  | cons n ns ih =>
    by_cases hn : isDue now n = true
    · rw [List.filter_cons_of_pos hn]
      exact (List.prefix_cons_inj n).mpr (ih (List.pairwise_cons.mp h).2)
    · rw [filter_isDue_of_not h hn]
      exact List.nil_prefix

theorem upToLast_prefix_self (ns : List (Nat × Notice)) : upToLast ns <+: ns := by
  induction ns with
  | nil => exact List.prefix_rfl
  | cons n ns ih =>
    rw [upToLast]
    split
    · exact (List.prefix_cons_inj n).mpr List.nil_prefix
    · exact (List.prefix_cons_inj n).mpr ih

theorem upToLast_filter_isDue {ns : List (Nat × Notice)} (h : IsChronological ns) (now : Nat) :
    upToLast (ns.filter (isDue now)) = (upToLast ns).filter (isDue now) := by
  induction ns with
  | nil => rfl
  | cons n ns ih =>
    by_cases hn : isDue now n = true
    · rw [List.filter_cons_of_pos hn, upToLast, upToLast]
      cases hlast : n.2.isLast with
      | true => simp [hn]
      | false => simp [hn, ih (List.pairwise_cons.mp h).2]
    · have hnone := filter_isDue_of_not h hn
      have hsub : ((upToLast (n :: ns)).filter (isDue now)).Sublist [] := by
        rw [← hnone]
        exact (upToLast_prefix_self (n :: ns)).sublist.filter _
      rw [hnone, List.sublist_nil.mp hsub]
      rfl

theorem map_snd_noticesFrom (ends : Bool) (time : Nat) (updates : List (Nat × Status)) :
    (noticesFrom ends time updates).map Prod.snd
      = (updates.map Prod.snd).map Notice.update ++ if ends then [.ended] else [] := by
  induction updates generalizing time with
  | nil => cases ends <;> rfl
  | cons update rest ih =>
    rw [noticesFrom, List.map_cons, ih]
    rfl

variable (t : Timeline) (hash : String)

/-- The timeline as a feed of the listener of the call with a hash. -/
def feed : Feed where
  hash := hash
  updates := Stream'.Seq.ofList (t.updates.map Prod.snd)
  steps now := t.notices.countP (isDue now)
  steps_mono := by
    intro a b hab
    apply List.countP_mono_left
    intro n _ hn
    exact decide_eq_true (Nat.le_trans (of_decide_eq_true hn) hab)

theorem noticeAt_feed {n : Nat} (h : n < t.notices.length) :
    (t.notices.map Prod.snd)[n]? = some (noticeAt (t.feed hash).updates n) := by
  have hlength : t.notices.length = (t.notices.map Prod.snd).length := (List.length_map _).symm
  rw [hlength] at h
  have hnotices : t.notices.map Prod.snd
      = (t.updates.map Prod.snd).map Notice.update ++ if t.ends then [.ended] else [] :=
    map_snd_noticesFrom _ _ _
  rw [hnotices] at h ⊢
  have hget : (t.feed hash).updates.get? n = (t.updates.map Prod.snd)[n]? :=
    Stream'.Seq.ofList_get? _ n
  rw [noticeAt, hget]
  by_cases hn : n < (t.updates.map Prod.snd).length
  · rw [List.getElem?_append_left (by simpa using hn), List.getElem?_map,
      List.getElem?_eq_getElem hn]
    rfl
  · -- the only notice that is no update is the end
    rw [List.length_append, List.length_map] at h
    cases hends : t.ends with
    | false =>
      rw [hends] at h
      simp only [Bool.false_eq_true, if_false, List.length_nil] at h
      omega
    | true =>
      rw [hends] at h
      simp only [if_true, List.length_singleton] at h
      have hlast : n = (t.updates.map Prod.snd).length := by omega
      rw [List.getElem?_append_right (by rw [List.length_map]; omega), List.length_map, hlast,
        Nat.sub_self, List.getElem?_eq_none (Nat.le_refl _)]
      rfl

theorem notices_due (now : Nat) :
    (List.range ((t.feed hash).steps now)).map (noticeAt (t.feed hash).updates)
      = (t.notices.filter (isDue now)).map Prod.snd := by
  have hprefix : t.notices.filter (isDue now) <+: t.notices :=
    filter_isDue_prefix (isChronological_noticesFrom _ _ _) now
  have hsteps : (t.feed hash).steps now = (t.notices.filter (isDue now)).length :=
    List.countP_eq_length_filter
  have hle : (t.feed hash).steps now ≤ t.notices.length := by
    rw [hsteps]
    exact hprefix.length_le
  rw [List.prefix_iff_eq_take.mp hprefix, ← hsteps, List.map_take]
  apply List.ext_getElem?
  intro n
  by_cases hn : n < (t.feed hash).steps now
  · rw [List.getElem?_map, List.getElem?_range hn, List.getElem?_take_of_lt hn,
      t.noticeAt_feed hash (by omega)]
    rfl
  · rw [List.getElem?_eq_none (by simpa using hn), List.getElem?_eq_none (by simp; omega)]

theorem listenerAt_feed (now : Nat) :
    (t.feed hash).listenerAt now
      = ((t.notices.filter (isDue now)).map Prod.snd).foldl (hear hash) fresh := by
  rw [Feed.listenerAt, afterSteps_eq_foldl, notices_due]
  rfl

/-- What a timeline says of a call at a time is what the listener knows by then. -/
theorem tracker_feed (now : Nat) : ((t.feed hash).listenerAt now).tracker = t.trackerAt now := by
  rw [listenerAt_feed, tracker_foldl_hear]
  rfl

/-- The lines that a timeline has logged by a time are those that the listener has logged. -/
theorem lines_feed (now : Nat) :
    ((t.feed hash).listenerAt now).lines
      = ((t.lines hash).filter fun e => e.1 ≤ now).map Prod.snd := by
  have hchronological : IsChronological t.notices := isChronological_noticesFrom _ _ _
  rw [listenerAt_feed, lines_foldl_hear hash fresh _ rfl, upToLast_filter_isDue hchronological]
  show List.filterMap _ ((upToLast t.notices).filter (isDue now)) = _
  rw [lines, consumed]
  induction upToLast t.notices with
  | nil => rfl
  | cons n ns ih =>
    rw [List.filter_cons, List.filterMap_cons]
    cases hline : n.2.line? hash with
    | none =>
      rw [Option.map_none, ← ih]
      split
      · rw [List.filterMap_cons, hline]
      · rfl
    | some entry =>
      rw [Option.map_some, List.filter_cons]
      by_cases hn : n.1 ≤ now
      · simp only [isDue, hn, decide_true, if_true]
        rw [List.filterMap_cons, hline, List.map_cons]
        exact congrArg _ ih
      · simp only [isDue, hn, decide_false, Bool.false_eq_true, if_false]
        exact ih

theorem statusAt_feed (now : Nat) : (t.feed hash).statusAt now = t.statusAt now := by
  rw [Feed.statusAt, tracker_feed]
  rfl

theorem watchFrom_feed (time : Nat) : (t.feed hash).watchFrom time = t.watchFrom time := by
  funext state elapsed
  rw [Feed.watchFrom, statusAt_feed]
  rfl

end Timeline

end Preflight
