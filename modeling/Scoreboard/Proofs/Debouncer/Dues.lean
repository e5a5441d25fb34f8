import Mathlib.Data.List.Chain
import Mathlib.Data.List.Nodup
import Mathlib.Data.List.Pairwise
import Scoreboard.Debouncer.Acts

/-!
# When the action is due

The timing of a debouncer without the debouncer: a signal that arrives while the action runs is handled at
its end, any other at once (`handledAt`), and a request makes the action due one window after it is handled,
if nothing else is handled before that (`dues`, `mem_dues_iff`). Main statements: what a signal makes of what
is due before it (`dues_append`), and that signals handled later than a time do not count until then
(`filter_dues_append`).
-/

namespace Scoreboard

namespace Debouncer

/-- When a signal is handled that arrives at a time: at the end of the action that runs then, if one does. -/
def handledAt (duration : Nat) (starts : List Nat) (time : Nat) : Nat :=
  match starts.find? fun s => s ≤ time && time < s + duration with
  | some s => s + duration
  | none => time

/-- Signals with the times at which they are handled. -/
def handled (duration : Nat) (starts : List Nat) (arrivals : List Arrival) : List Arrival :=
  arrivals.map fun x => (handledAt duration starts x.1, x.2)

/-- When the action is due, for signals with the times at which they are handled. A signal that is no
request ends the debouncer. -/
def dues (window : Nat) : List Arrival → List Nat
  | (time, some .request) :: rest =>
    if ∀ x ∈ rest.head?, time + window ≤ x.1 then (time + window) :: dues window rest
    else dues window rest
  | _ => []

variable {w d : Nat}

theorem handled_cons (starts : List Nat) (x : Arrival) (more : List Arrival) :
    handled d starts (x :: more) = (handledAt d starts x.1, x.2) :: handled d starts more := rfl

/-- When signals are handled is a matter of each one and the starts, not of those before it. -/
theorem handled_append (starts : List Nat) (done more : List Arrival) :
    handled d starts (done ++ more) = handled d starts done ++ handled d starts more :=
  List.map_append

/-! ### What is due -/

/-- Nothing is due for a signal that is no request, nor for what comes after it. -/
theorem dues_of_ne {x : Arrival} (h : x.2 ≠ some .request) (rest : List Arrival) :
    dues w (x :: rest) = [] := by
  obtain ⟨time, signal⟩ := x
  match signal, h with
  | none, _ => rfl
  | some .stop, _ => rfl
  | some .request, h => exact absurd rfl h

theorem dues_singleton (time : Nat) : dues w [(time, some .request)] = [time + w] := by
  simp [dues]

/-- What is due is so one window after a request is handled, before or when the next signal is. -/
theorem mem_dues_iff {l : List Arrival} {due : Nat} : due ∈ dues w l ↔
    ∃ before time after, l = before ++ (time, some .request) :: after ∧
      (∀ x ∈ before, x.2 = some .request) ∧ due = time + w ∧ ∀ x ∈ after.head?, due ≤ x.1 := by
  -- the induction is on the signals: the first request is due itself, or what is due is so for a later one
  induction l with
  | nil => simp [dues]
  | cons x rest ih =>
    obtain ⟨time, signal⟩ := x
    by_cases hx : signal = some .request
    · subst hx
      -- whether the first request is due shows at the signal behind it
      have hmem : due ∈ dues w ((time, some .request) :: rest) ↔
          ((∀ x ∈ rest.head?, time + w ≤ x.1) ∧ due = time + w) ∨ due ∈ dues w rest := by
        rw [dues]
        split
        · rename_i hnext
          rw [List.mem_cons, and_iff_right hnext]
        · rename_i hnext
          constructor
          · exact .inr
          · rintro (h | h)
            · exact absurd h.1 hnext
            · exact h
      rw [hmem, ih]
      constructor
      · rintro (⟨hnext, rfl⟩ | ⟨before, time', after, rfl, hbefore, rfl, hnext⟩)
        · exact ⟨[], time, rest, rfl, by simp, rfl, hnext⟩
        · exact ⟨(time, some .request) :: before, time', after, rfl, by simpa using hbefore, rfl, hnext⟩
      · rintro ⟨before, time', after, hl, hbefore, rfl, hnext⟩
        rcases before with _ | ⟨y, before⟩
        · cases hl
          exact .inl ⟨hnext, rfl⟩
        · cases hl
          exact .inr ⟨before, time', after, rfl, fun x hx => hbefore x (List.mem_cons_of_mem _ hx), rfl, hnext⟩
    · rw [dues_of_ne hx]
      -- a signal that is no request ends the list, so none stands before a request that is due
      constructor
      · intro h
        cases h
      · rintro ⟨before, time', after, hl, hbefore, -, -⟩
        rcases before with _ | ⟨y, before⟩
        · cases hl
          exact absurd rfl hx
        · cases hl
          exact absurd (hbefore _ List.mem_cons_self) hx

/-- A request with a signal behind it is due unless this one is handled within the window. -/
theorem dues_cons_singleton (time : Nat) (x : Arrival) (rest : List Arrival) :
    dues w ((time, some .request) :: x :: rest) =
      if time + w ≤ x.1 then (time + w) :: dues w (x :: rest) else dues w (x :: rest) := by
  rw [dues]
  simp only [List.head?_cons, Option.mem_some_iff, forall_eq']

/-- Of what is due after some requests, a signal that follows them leaves what is due before it. -/
theorem dues_append {l : List Arrival} {x : Arrival} (requests : ∀ y ∈ l, y.2 = some .request)
    (earlier : ∀ y ∈ l, y.1 ≤ x.1) (after : List Arrival) :
    dues w (l ++ x :: after) = (dues w l).filter (· ≤ x.1) ++ dues w (x :: after) := by
  induction l with
  | nil => rfl
  | cons y rest ih =>
    obtain ⟨time, signal⟩ := y
    obtain rfl : signal = some .request := requests _ List.mem_cons_self
    have hrest := ih (fun y hy => requests y (List.mem_cons_of_mem _ hy))
      (fun y hy => earlier y (List.mem_cons_of_mem _ hy))
    -- whether the last request is due depends on `x`, which is handled no earlier than any of them
    rcases rest with _ | ⟨y, rest⟩
    · rw [List.singleton_append, dues_cons_singleton, dues_singleton]
      split
      · rename_i hdue
        simp [hdue]
      · rename_i hdue
        simp [hdue]
    · rw [List.cons_append, List.cons_append, dues_cons_singleton, dues_cons_singleton, ← List.cons_append,
        hrest]
      split
      · rename_i hdue
        have hy : y.1 ≤ x.1 := earlier y (List.mem_cons_of_mem _ List.mem_cons_self)
        have hx : time + w ≤ x.1 := Nat.le_trans hdue hy
        simp [hx]
      · rfl

/-- Signals handled at a time or later make nothing due by then. -/
theorem filter_dues_append (hw : 0 < w) {now : Nat} {later : List Arrival} (hlater : ∀ x ∈ later, now ≤ x.1)
    (l : List Arrival) : (dues w (l ++ later)).filter (· ≤ now) = (dues w l).filter (· ≤ now) := by
  -- a request handled at `now` or later is due after `now`
  have hnone : (dues w later).filter (· ≤ now) = [] := by
    rw [List.filter_eq_nil_iff]
    intro due hdue
    obtain ⟨before, time, after, rfl, -, rfl, -⟩ := mem_dues_iff.mp hdue
    have htime : now ≤ time := hlater _ (List.mem_append_right before List.mem_cons_self)
    rw [decide_eq_true_eq]
    omega
  -- the induction is on the signals before, of which the last one alone sees what comes later
  induction l with
  | nil => exact hnone
  | cons y rest ih =>
    obtain ⟨time, signal⟩ := y
    by_cases hsignal : signal = some .request
    · subst hsignal
      -- only for the last of `l` does the signal after it change
      rcases rest with _ | ⟨y, rest⟩
      · rcases later with _ | ⟨x, later⟩
        · rfl
        rw [List.singleton_append, dues_cons_singleton, dues_singleton]
        have hx : now ≤ x.1 := hlater x List.mem_cons_self
        split
        · rename_i hdue
          simp only [List.filter_cons, hnone, List.filter_nil]
        · rename_i hdue
          have hnow : ¬time + w ≤ now := by omega
          simp [hnone, hnow]
      · rw [List.cons_append, List.cons_append, dues_cons_singleton, dues_cons_singleton, ← List.cons_append]
        split
        · rw [List.filter_cons, List.filter_cons, ih]
        · exact ih
    · rw [List.cons_append, dues_of_ne hsignal, dues_of_ne hsignal]

/-- Whatever is handled, nothing is due in the window after it. -/
theorem dues_gap {l : List Arrival} (sorted : l.Pairwise fun x y => x.1 ≤ y.1) {x : Arrival} (hx : x ∈ l)
    {due : Nat} (hdue : due ∈ dues w l) : due ≤ x.1 ∨ x.1 + w ≤ due := by
  induction l with
  | nil => cases hx
  | cons y rest ih =>
    obtain ⟨time, signal⟩ := y
    obtain ⟨hfirst, hrest⟩ := List.pairwise_cons.mp sorted
    by_cases hsignal : signal = some .request
    · subst hsignal
      obtain ⟨before, time', after, hl, hbefore, rfl, hnext⟩ := mem_dues_iff.mp hdue
      rcases before with _ | ⟨y, before⟩
      · obtain ⟨rfl, rfl⟩ : time = time' ∧ rest = after := by simpa using hl
        rcases List.mem_cons.mp hx with rfl | hx
        · exact .inr (Nat.le_refl _)
        · -- the next signal comes no sooner than what is due, and `x` no sooner than that
          left
          rcases rest with _ | ⟨z, rest⟩
          · cases hx
          · have hz : time + w ≤ z.1 := hnext z rfl
            rcases List.mem_cons.mp hx with rfl | hx
            · exact hz
            · exact Nat.le_trans hz ((List.pairwise_cons.mp hrest).1 x hx)
      -- the request that is due comes after the first signal
      · obtain ⟨rfl, rfl⟩ : (time, some .request) = y ∧
            rest = before ++ (time', some .request) :: after := by simpa using hl
        rcases List.mem_cons.mp hx with rfl | hx
        · right
          have hle : time ≤ time' := hfirst _ (List.mem_append_right before List.mem_cons_self)
          exact Nat.add_le_add_right hle w
        · have hmem : time' + w ∈ dues w (before ++ (time', some .request) :: after) :=
            mem_dues_iff.mpr ⟨before, time', after, rfl,
              fun z hz => hbefore z (List.mem_cons_of_mem _ hz), rfl, hnext⟩
          exact ih hrest hx hmem
    · rw [dues_of_ne hsignal] at hdue
      cases hdue

/-! ### When signals are handled -/

/-- No signal is handled before it arrives. -/
theorem le_handledAt (starts : List Nat) (time : Nat) : time ≤ handledAt d starts time := by
  unfold handledAt
  split
  · rename_i s hs
    have hrun := List.find?_some hs
    simp only [Bool.and_eq_true, decide_eq_true_eq] at hrun
    omega
  · exact Nat.le_refl time

/-- While no action runs, a signal is handled when it arrives. -/
theorem handledAt_of_idle {starts : List Nat} {time : Nat}
    (idle : ∀ s ∈ starts, s ≤ time → s + d ≤ time) : handledAt d starts time = time := by
  have hnone : (starts.find? fun s => s ≤ time && time < s + d) = none := by
    rw [List.find?_eq_none]
    intro s hs
    simp only [Bool.and_eq_true, decide_eq_true_eq, not_and, Nat.not_lt]
    exact idle s hs
  rw [handledAt, hnone]

/-- An action that starts later does not matter to a signal. -/
theorem handledAt_append_of_lt {starts : List Nat} {s time : Nat} (h : time < s) :
    handledAt d (starts ++ [s]) time = handledAt d starts time := by
  have hs : [s].find? (fun s => s ≤ time && time < s + d) = none := by
    simp [Nat.not_le.mpr h]
  rw [handledAt, List.find?_append, hs, Option.or_none, handledAt]

/-- A start delays no signal that has arrived before it. -/
theorem handled_append_of_lt {starts : List Nat} {s : Nat} {arrivals : List Arrival}
    (h : ∀ x ∈ arrivals, x.1 < s) : handled d (starts ++ [s]) arrivals = handled d starts arrivals := by
  apply List.map_congr_left
  intro x hx
  rw [handledAt_append_of_lt (h x hx)]

/-- While an action runs, and none of the earlier ones does, a signal is handled at its end. -/
theorem handledAt_append_of_running {starts : List Nat} {s time : Nat}
    (idle : ∀ s' ∈ starts, s' + d ≤ s) (hs : s ≤ time) (hend : time < s + d) :
    handledAt d (starts ++ [s]) time = s + d := by
  have hnone : (starts.find? fun s => s ≤ time && time < s + d) = none := by
    rw [List.find?_eq_none]
    intro s' hs'
    have hover := idle s' hs'
    simp only [Bool.and_eq_true, decide_eq_true_eq]
    omega
  have hfind : [s].find? (fun s => s ≤ time && time < s + d) = some s := by
    simp [hs, hend]
  rw [handledAt, List.find?_append, hnone, Option.none_or, hfind]

/-! ### Actions that do not overlap -/

/-- Of two starts one comes a window and more after the end of the other. -/
theorem apart {starts : List Nat} (pairwise : starts.Pairwise fun s s' => s + d + w ≤ s') {s s' : Nat}
    (hs : s ∈ starts) (hs' : s' ∈ starts) : s = s' ∨ s + d + w ≤ s' ∨ s' + d + w ≤ s := by
  have hforth : starts.Pairwise fun s s' => s = s' ∨ s + d + w ≤ s' ∨ s' + d + w ≤ s :=
    pairwise.imp fun h => .inr (.inl h)
  have hback : starts.Pairwise (flip fun s s' => s = s' ∨ s + d + w ≤ s' ∨ s' + d + w ≤ s) :=
    pairwise.imp fun h => .inr (.inr h)
  exact hforth.forall_of_forall_of_flip (fun _ _ => .inl rfl) hback hs hs'

/-- A signal is handled when it arrives, or at the end of the action that runs then. -/
theorem handledAt_cases (starts : List Nat) (time : Nat) :
    handledAt d starts time = time ∧ (∀ s ∈ starts, s ≤ time → s + d ≤ time) ∨
      ∃ s ∈ starts, s ≤ time ∧ time < s + d ∧ handledAt d starts time = s + d := by
  unfold handledAt
  split
  · rename_i s hs
    have hrun := List.find?_some hs
    simp only [Bool.and_eq_true, decide_eq_true_eq] at hrun
    exact .inr ⟨s, List.mem_of_find?_eq_some hs, hrun.1, hrun.2, rfl⟩
  · rename_i hnone
    refine .inl ⟨rfl, fun s hs hle => ?_⟩
    have hover := List.find?_eq_none.mp hnone s hs
    simp only [Bool.and_eq_true, decide_eq_true_eq] at hover
    omega

/-- A signal that arrives while the action runs is handled at its end. -/
theorem handledAt_of_running {starts : List Nat} (pairwise : starts.Pairwise fun s s' => s + d + w ≤ s')
    {s time : Nat} (hs : s ∈ starts) (hle : s ≤ time) (hlt : time < s + d) :
    handledAt d starts time = s + d := by
  obtain ⟨_, hover⟩ | ⟨s', hs', hle', hlt', heq⟩ := handledAt_cases (d := d) starts time
  · have hend := hover s hs hle
    omega
  · have hapart := apart pairwise hs hs'
    omega

/-- Signals are handled in the order in which they arrive. -/
theorem handledAt_mono {starts : List Nat} (pairwise : starts.Pairwise fun s s' => s + d + w ≤ s')
    {time time' : Nat} (hle : time ≤ time') : handledAt d starts time ≤ handledAt d starts time' := by
  have hlater := le_handledAt (d := d) starts time'
  obtain ⟨heq, _⟩ | ⟨s, hs, hle', _, heq⟩ := handledAt_cases (d := d) starts time
  · omega
  · by_cases hrun : time' < s + d
    · rw [heq, handledAt_of_running pairwise hs (Nat.le_trans hle' hle) hrun]
    · omega

/-- Signals are handled in the order in which they arrive. -/
theorem pairwise_handled {starts : List Nat} (pairwise : starts.Pairwise fun s s' => s + d + w ≤ s')
    {arrived : List Arrival} (sorted : arrived.Pairwise fun x y => x.1 ≤ y.1) :
    (handled d starts arrived).Pairwise fun x y => x.1 ≤ y.1 := by
  rw [handled, List.pairwise_map]
  exact sorted.imp fun h => handledAt_mono pairwise h

/-! ### Bursts -/

/-- After a burst of requests the action is due a window after the last is handled, if nothing else is handled
before that. -/
theorem mem_dues_of_burst {starts : List Nat} {before burst after : List Arrival} (hne : burst ≠ [])
    (requests : ∀ x ∈ before ++ burst, x.2 = some .request)
    (hafter : ∀ x ∈ after.head?,
      handledAt d starts (burst.getLast hne).1 + w ≤ handledAt d starts x.1) :
    handledAt d starts (burst.getLast hne).1 + w ∈ dues w (handled d starts (before ++ burst ++ after)) := by
  have hrequest : (burst.getLast hne).2 = some .request :=
    requests _ (List.mem_append_right before (List.getLast_mem hne))
  -- the last request of the burst is the one that the signals in `after` follow
  have hsplit : handled d starts (before ++ burst ++ after) =
      handled d starts (before ++ burst.dropLast) ++
        (handledAt d starts (burst.getLast hne).1, some .request) :: handled d starts after := by
    rw [← hrequest, ← handled_cons, ← handled_append, List.append_assoc, List.append_assoc,
      ← List.singleton_append, ← List.append_assoc burst.dropLast, List.dropLast_append_getLast hne]
  rw [hsplit]
  refine mem_dues_iff.mpr ⟨_, _, _, rfl, ?_, rfl, ?_⟩
  · intro x hx
    obtain ⟨y, hy, rfl⟩ := List.mem_map.mp hx
    refine requests y ?_
    rcases List.mem_append.mp hy with hy | hy
    · exact List.mem_append_left _ hy
    · exact List.mem_append_right before (List.dropLast_subset _ hy)
  · intro x hx
    rw [handled, List.head?_map, Option.mem_def, Option.map_eq_some_iff] at hx
    obtain ⟨y, hy, rfl⟩ := hx
    exact hafter y hy

section Burst

variable {starts : List Nat} {arrived : List Arrival}
  (pairwise : starts.Pairwise fun s s' => s + d + w ≤ s')
  (sorted : arrived.Pairwise fun x y => x.1 ≤ y.1)
  (started : ∀ s ∈ starts, s ∈ dues w (handled d starts arrived))

include pairwise sorted started

/-- The action does not start in the window after a signal is handled. -/
theorem start_gap {x : Arrival} (hx : x ∈ arrived) {s : Nat} (hs : s ∈ starts) :
    s ≤ handledAt d starts x.1 ∨ handledAt d starts x.1 + w ≤ s :=
  dues_gap (pairwise_handled pairwise sorted) (List.mem_map_of_mem hx) (started s hs)

/-- Signals that arrive less than a window apart are handled so. -/
theorem handledAt_lt {x : Arrival} (hx : x ∈ arrived) {time : Nat} (hle : x.1 ≤ time)
    (hlt : time < x.1 + w) : handledAt d starts time < handledAt d starts x.1 + w := by
  have hlater := le_handledAt (d := d) starts x.1
  obtain ⟨heq, _⟩ | ⟨s, hs, hs_le, hs_lt, heq⟩ := handledAt_cases (d := d) starts time
  · omega
  -- the action that runs at `time` ran already when `x` arrived
  have hstart : s ≤ x.1 := by
    have hgap := start_gap pairwise sorted started hx hs
    obtain ⟨hx_eq, _⟩ | ⟨s', hs', hle', hlt', hx_eq⟩ := handledAt_cases (d := d) starts x.1
    · omega
    · have hapart := apart pairwise hs hs'
      omega
  rw [heq, handledAt_of_running pairwise hs hstart (by omega)]
  omega

/-- After the first signal of a burst the action does not start before a window after the last. -/
theorem burst_gap {first : Arrival} {rest : List Arrival} (hmem : ∀ x ∈ first :: rest, x ∈ arrived)
    (order : (first :: rest).Pairwise fun x y => x.1 ≤ y.1)
    (chain : List.IsChain (fun x y => y.1 < x.1 + w) (first :: rest)) {s : Nat}
    (hs : s ∈ starts) (hlt : handledAt d starts first.1 < s) :
    handledAt d starts ((first :: rest).getLast (List.cons_ne_nil _ _)).1 + w ≤ s := by
  -- a start after the first request is a window after it, and so after the second
  induction rest generalizing first with
  | nil =>
    have hgap := start_gap pairwise sorted started (hmem first List.mem_cons_self) hs
    rw [List.getLast_singleton]
    omega
  -- the second request comes within a window of the first, so it is handled before a start that is a window after
  -- the first
  | cons second rest ih =>
    rw [List.isChain_cons_cons] at chain
    obtain ⟨hwindow, chain⟩ := chain
    obtain ⟨hle, order⟩ := List.pairwise_cons.mp order
    have hfirst := hmem first List.mem_cons_self
    have hgap := start_gap pairwise sorted started hfirst hs
    have hsecond :=
      handledAt_lt pairwise sorted started hfirst (hle second List.mem_cons_self) hwindow
    rw [List.getLast_cons_cons]
    exact ih (fun x hx => hmem x (List.mem_cons_of_mem _ hx)) order chain (by omega)

/-- In the time of a burst and a window more the action starts once. -/
theorem filter_burst (hw : 0 < w) {first : Arrival} {rest : List Arrival}
    (hmem : ∀ x ∈ first :: rest, x ∈ arrived) (order : (first :: rest).Pairwise fun x y => x.1 ≤ y.1)
    (chain : List.IsChain (fun x y => y.1 < x.1 + w) (first :: rest)) {due : Nat}
    (hdue : due = handledAt d starts ((first :: rest).getLast (List.cons_ne_nil _ _)).1 + w)
    (hstart : due ∈ starts) :
    starts.filter (fun s => handledAt d starts first.1 < s ∧ s ≤ due) = [due] := by
  have hfirst : handledAt d starts first.1 < due := by
    rcases List.mem_cons.mp (List.getLast_mem (List.cons_ne_nil first rest)) with hlast | hlast
    · rw [hdue, hlast]
      omega
    · have hle := handledAt_mono pairwise ((List.pairwise_cons.mp order).1 _ hlast)
      omega
  -- without repetition on either side it is enough to compare the members
  have hnodup : starts.Nodup := pairwise.imp fun h => by omega
  have hperm : List.Perm (starts.filter fun s => handledAt d starts first.1 < s ∧ s ≤ due) [due] := by
    rw [List.perm_ext_iff_of_nodup (hnodup.filter _) (List.nodup_singleton due)]
    intro s
    rw [List.mem_filter, decide_eq_true_eq, List.mem_singleton]
    constructor
    · rintro ⟨hs, hlt, hle⟩
      have hgap := burst_gap pairwise sorted started hmem order chain hs hlt
      omega
    · rintro rfl
      exact ⟨hstart, hfirst, Nat.le_refl _⟩
  exact List.perm_singleton.mp hperm

end Burst

end Debouncer

end Scoreboard
