import Scoreboard.Console.Recorder
import Scoreboard.Proofs.Table

/-!
# Who is served a line

While a line is served, processors may register and remove each other and themselves, and what they register may do so
at the next line. Main statement (`served_of_run`): in every run of a console, a line is delivered once to each
processor that is registered when it comes in and to nobody else, whatever the processors do meanwhile and in whatever
order they are served, and an owner has a processor just if the last thing done about it was to register one, by
whomever (`Served`).

Deliveries are settled before anything is done about who is served (`deliveries_serve`), and everything done since the
console was new, from outside or by processors, is in the list that a run keeps (`Tabled.of_run`).
-/

namespace Scoreboard

variable {π : Type}

namespace Rearrangement

/-- The owner whose processor is registered or removed. -/
def owner : Rearrangement π → String
  | register owner _ => owner
  | unregister owner => owner

/-- The processor that the owner has after this. -/
def processor? : Rearrangement π → Option π
  | register _ processor => some processor
  | unregister _ => none

/-- What has been done last about an owner's processor. -/
def lastAbout? (owner : String) (done : List (Rearrangement π)) : Option (Rearrangement π) :=
  done.reverse.find? (·.owner = owner)

end Rearrangement

namespace Console

/-- All that processors do about who is served while a line is served to them, in order. -/
def rearrangements (react : Reaction π) (line : String) (suppressed : Bool) :
    List π → Console π → List (Rearrangement π)
  | [], _ => []
  | processor :: others, c =>
    let done := react ⟨processor, line, suppressed⟩ c
    done ++ rearrangements react line suppressed others (done.foldl rearrange c)

/-- What can be done to a console, with all that is done about who is served. The table of processors may be gone
through in any order, and processors may keep something of their own and so react differently to every line. -/
inductive Step : Console π → List (Rearrangement π) → Console π → Prop where
  | run {c : Console π} (command : String) : Step c [] (c.run command).1
  | forget {c : Console π} : Step c [] c.forget
  | respondWith {c : Console π} (respond : String → String) : Step c [] (c.respondWith respond)
  | register {c : Console π} (owner : String) (processor : π) :
      Step c [.register owner processor] (c.register owner processor)
  | unregister {c : Console π} (owner : String) : Step c [.unregister owner] (c.unregister owner)
  | emit {c : Console π} {order : List π} (react : Reaction π) (line : String) (suppressed : Bool)
      (isOrder : order.Perm c.serving) :
      Step c (c.rearrangements react line suppressed order) (c.serve react line suppressed order).2

/-- A run of a console. -/
inductive Run : Console π → List (Rearrangement π) → Console π → Prop where
  | refl (c : Console π) : Run c [] c
  | tail {c c' c'' : Console π} {done next : List (Rearrangement π)} (run : Run c done c') (step : Step c' next c'') :
      Run c (done ++ next) c''

open Rearrangement (lastAbout?)

/-- To whom a line is delivered, and who has a processor, after some things have been done about who is served. -/
structure Served (done : List (Rearrangement π)) (c : Console π) : Prop where
  /-- A line is delivered once to each processor that is registered when it comes in, with its flag. -/
  delivered : ∀ react line suppressed order, order.Perm c.serving →
    (c.serve react line suppressed order).1.Perm (c.serving.map fun processor => ⟨processor, line, suppressed⟩)
  /-- So it does not matter in which order they are served and what they do. -/
  orderless : ∀ react react' line suppressed order order', order.Perm c.serving → order'.Perm c.serving →
    (c.serve react line suppressed order).1.Perm (c.serve react' line suppressed order').1
  /-- Whoever is served was registered before. -/
  registered : ∀ react line suppressed order, order.Perm c.serving →
    ∀ d ∈ (c.serve react line suppressed order).1, ∃ owner, c.processors.get? owner = some d.processor
  /-- An owner's processor is the one that was registered last, unless it was removed after that. -/
  last : ∀ owner processor, c.processors.get? owner = some processor ↔
    lastAbout? owner done = some (.register owner processor)
  has : ∀ owner, c.hasProcessor owner ↔ ∃ processor, lastAbout? owner done = some (.register owner processor)
  single : c.processors.keys.Nodup

/-- The processors of a console are those that were registered last and not removed. -/
structure Tabled (done : List (Rearrangement π)) (c : Console π) : Prop where
  last : ∀ owner, c.processors.get? owner = (lastAbout? owner done).bind Rearrangement.processor?
  single : c.processors.keys.Nodup

variable {c c' : Console π} {react : Reaction π} {line owner : String} {suppressed : Bool} {order : List π}
  {done next : List (Rearrangement π)} {r : Rearrangement π}

/-! ### Deliveries -/

/-- What is delivered is settled before anything is done. -/
theorem deliveries_serve (order : List π) (c : Console π) :
    (c.serve react line suppressed order).1 = order.map fun processor => ⟨processor, line, suppressed⟩ := by
  induction order generalizing c with
  | nil => rfl
  | cons processor others ih => exact congrArg _ (ih _)

/-- After a line has been served the console is as its processors have rearranged it. -/
theorem console_serve (order : List π) (c : Console π) : (c.serve react line suppressed order).2 =
    (c.rearrangements react line suppressed order).foldl rearrange c := by
  induction order generalizing c with
  | nil => rfl
  | cons processor others ih =>
    rw [rearrangements, List.foldl_append]
    exact ih _

/-! ### Who has a processor -/

/-- The last deed about an owner is the newest one if it is about this owner. -/
theorem lastAbout?_concat :
    lastAbout? owner (done ++ [r]) = if r.owner = owner then some r else lastAbout? owner done := by
  rw [lastAbout?, List.reverse_append, List.reverse_singleton, List.singleton_append, List.find?_cons]
  by_cases h : r.owner = owner
  · simp [h]
  · simp [h, lastAbout?]

theorem owner_of_lastAbout? (h : lastAbout? owner done = some r) : r.owner = owner := by
  rw [lastAbout?] at h
  simpa using List.find?_some h

/-- A deed settles who listens under its owner, and leaves the others. -/
theorem get?_rearrange (c : Console π) (r : Rearrangement π) (owner : String) :
    (c.rearrange r).processors.get? owner = if r.owner = owner then r.processor? else c.processors.get? owner := by
  cases r with
  | register owner' processor => exact Table.get?_insert c.processors owner' owner processor
  | unregister owner' => exact Table.get?_erase c.processors owner' owner

/-- A deed leaves one processor under an owner at most. -/
theorem nodup_keys_rearrange (single : c.processors.keys.Nodup) (r : Rearrangement π) :
    (c.rearrange r).processors.keys.Nodup := by
  cases r with
  | register owner processor => exact Table.nodup_keys_insert single owner processor
  | unregister owner => exact Table.nodup_keys_erase single owner

/-- One deed more keeps the table what the deeds make of it. -/
theorem Tabled.rearrange (tabled : Tabled done c) (r : Rearrangement π) : Tabled (done ++ [r]) (c.rearrange r) := by
  refine ⟨fun owner => ?_, nodup_keys_rearrange tabled.single r⟩
  rw [get?_rearrange, lastAbout?_concat, tabled.last]
  split <;> rfl

/-- Deeds in a row keep the table what they make of it. -/
theorem Tabled.foldl (tabled : Tabled done c) (next : List (Rearrangement π)) :
    Tabled (done ++ next) (next.foldl Console.rearrange c) := by
  induction next generalizing done c with
  | nil => rwa [List.append_nil]
  | cons r next ih =>
    have hdone : done ++ r :: next = done ++ [r] ++ next := by simp
    rw [hdone]
    exact ih (tabled.rearrange r)

/-- A step keeps the table what the deeds make of it, those of a line's processors among them. -/
theorem Tabled.step (tabled : Tabled done c) (step : Step c next c') : Tabled (done ++ next) c' := by
  cases step with
  | run | forget | respondWith =>
    rw [List.append_nil]
    exact ⟨tabled.last, tabled.single⟩
  | register owner processor => exact tabled.rearrange (.register owner processor)
  | unregister owner => exact tabled.rearrange (.unregister owner)
  | emit react line suppressed _ =>
    rw [console_serve]
    exact tabled.foldl _

/-- After any run the table is what the deeds make of it. -/
theorem Tabled.of_run (tabled : Tabled [] c) (run : Run c done c') : Tabled done c' := by
  induction run with
  | refl => exact tabled
  | tail _ step ih => exact ih.step step

theorem tabled_new (respond : String → String) : Tabled [] ({ respond } : Console π) :=
  ⟨fun _ => rfl, List.nodup_nil⟩

/-- A processor listens under an owner exactly if the last deed about the owner has put it there. -/
theorem Tabled.get?_eq_some_iff (tabled : Tabled done c) {processor : π} :
    c.processors.get? owner = some processor ↔ lastAbout? owner done = some (.register owner processor) := by
  rw [tabled.last]
  constructor
  · intro h
    obtain ⟨r, hr, hprocessor⟩ := Option.bind_eq_some_iff.mp h
    have howner := owner_of_lastAbout? hr
    cases r with
    | register owner' processor' =>
      cases hprocessor
      cases howner
      exact hr
    | unregister => cases hprocessor
  · intro h
    rw [h]
    rfl

/-! ### The whole run -/

/-- In every run, a line is delivered to those who are registered when it comes in. -/
theorem served_of_run {respond : String → String} (run : Run { respond } done c) : Served done c := by
  have tabled := Tabled.of_run (tabled_new respond) run
  have delivered : ∀ (react : Reaction π) line suppressed order, order.Perm c.serving →
      (c.serve react line suppressed order).1.Perm (c.serving.map fun processor => ⟨processor, line, suppressed⟩) := by
    intro react line suppressed order isOrder
    rw [deliveries_serve]
    exact isOrder.map _
  refine ⟨delivered, ?_, ?_, fun _ _ => tabled.get?_eq_some_iff, fun owner => ?_, tabled.single⟩
  · intro react react' line suppressed order order' isOrder isOrder'
    exact (delivered react line suppressed order isOrder).trans (delivered react' line suppressed order' isOrder').symm
  · intro react line suppressed order isOrder d hd
    obtain ⟨processor, hprocessor, rfl⟩ := List.mem_map.mp ((delivered react line suppressed order isOrder).subset hd)
    obtain ⟨⟨owner, _⟩, hentry, rfl⟩ := List.mem_map.mp hprocessor
    exact ⟨owner, Table.get?_of_mem tabled.single hentry⟩
  · rw [hasProcessor, Table.contains, Option.isSome_iff_exists]
    exact exists_congr fun _ => tabled.get?_eq_some_iff

/-- Two recorders of which each removes the other, and one puts a third in the place of the other: both are served the
line, the third is not, and it stays. -/
theorem served_of_rivals :
    let third : Recorder := .mk "third" none none
    let first : Recorder := .mk "first" (some "second") (some ("second", third))
    let second : Recorder := .mk "second" (some "first") none
    let before := (({} : Console Recorder).register "first" first).register "second" second
    let (deliveries, after) := before.serve Recorder.react "line" true [second, first]
    deliveries.Perm [⟨first, "line", true⟩, ⟨second, "line", true⟩] ∧
      after.hasProcessor "first" = false ∧ after.hasProcessor "second" = true := by
  intro third first second before
  have run : Run {} [.register "first" first, .register "second" second] before :=
    ((Run.refl _).tail (.register "first" first)).tail (.register "second" second)
  have isOrder : [second, first].Perm before.serving := .swap first second []
  have delivered := (served_of_run run).delivered Recorder.react "line" true [second, first] isOrder
  have served := served_of_run (run.tail (.emit Recorder.react "line" true isOrder))
  refine ⟨delivered, Bool.eq_false_iff.mpr fun h => ?_, (served.has "second").mpr ⟨third, rfl⟩⟩
  obtain ⟨_, hlast⟩ := (served.has "first").mp h
  cases hlast

end Console

end Scoreboard
