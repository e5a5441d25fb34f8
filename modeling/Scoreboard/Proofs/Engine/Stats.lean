import Scoreboard.Proofs.Command
import Scoreboard.Proofs.Engine.Changes
import Scoreboard.Proofs.Engine.Stretch

/-!
# What a stretch counts

The counters of an engine go up in stretches of its operations. The stretch that begins an operation counts the
commands that it sends and a full synchronisation (`begin_stats`); all else is counted by the stretch that takes
the reply, from the stage in which the operation has waited for it (`resume_stats`).
-/

namespace Scoreboard

/-- How many times commands go out when an operation goes on. -/
def Next.batches : Next → Nat
  | .send .. => 1
  | _ => 0

namespace Engine

/-- What begins counts full synchronisations and the texts that it sends, and nothing else. -/
theorem begin_stats (e : Engine) (operation : Operation) (draws : Draws) :
    let o := (e.begin operation draws).1
    o.engine.stats = { e.stats with
      fullSyncs := e.stats.fullSyncs + UInt64.ofNat operation.fullSyncs
      commandsIssued := e.stats.commandsIssued + UInt64.ofNat o.next.batches } := by
  have begins := e.begins_begin operation draws
  simp only
  generalize (e.begin operation draws).1 = o at begins
  cases begins with
  | sends _ syncs _ => simp [syncs, Next.batches]
  | binds _ syncs => simp [syncs, Next.batches, bind]
  | idle syncs _ | endless syncs _ => simp [syncs, Next.batches]
  | syncs => rfl
  | requests => simp [Operation.fullSyncs, Next.batches]

/-- What goes on counts what its stage stands for, and the texts that it sends. -/
theorem resume_stats (e : Engine) (stage : Stage) (reply : String) :
    let o := e.resume stage reply
    o.engine.stats = {
      objectivesRegistered := e.stats.objectivesRegistered + UInt64.ofNat (e.registers stage).length
      triggersRegistered := e.stats.triggersRegistered + UInt64.ofNat stage.triggers
      triggersFired := e.stats.triggersFired + UInt64.ofNat stage.fires
      fullSyncs := e.stats.fullSyncs
      singleSyncs := e.stats.singleSyncs + UInt64.ofNat stage.readings
      commandsIssued := e.stats.commandsIssued + UInt64.ofNat o.next.batches } := by
  have resumes := e.resumes_resume stage reply
  simp only
  generalize e.resume stage reply = o at resumes
  cases resumes with
  | sends continues =>
    have quiet := continues.quiet
    simp [quiet.registers, quiet.triggers, quiet.fires, quiet.readings, Next.batches]
  | publishes quiet _ | idle quiet _ =>
    simp [quiet.registers, quiet.triggers, quiet.fires, quiet.readings, Next.batches]
  | @enters objective _ fresh =>
    have registers : e.registers (.adding objective) = [objective] := if_neg (by simpa using fresh)
    simp [registers, register, Stage.triggers, Stage.fires, Stage.readings, Next.batches]
  | _ => simp [registers, Stage.triggers, Stage.fires, Stage.readings, Next.batches]

/-! ### Asking for the players -/

/-- Only a synchronisation begins with asking for the players. -/
theorem Opens.listing {e : Engine} {operation : Operation} {draws : Draws} {stage : Stage}
    (opens : e.Opens draws operation [.listPlayers] stage) : operation = .sync := by
  generalize hcommands : [Command.listPlayers] = commands at opens
  cases opens with
  | sync => rfl
  | @bind _ _ names _ _ => cases names <;> simp [triggerCommands] at hcommands
  | @bindAll _ _ _ names _ _ => cases names <;> simp [triggerCommands] at hcommands
  | _ => simp at hcommands

/-- No operation goes on to asking for the players. -/
theorem Continues.listing {e : Engine} {reply : String} {waiting stage : Stage} :
    ¬e.Continues reply waiting [.listPlayers] stage := by
  intro continues
  generalize hcommands : [Command.listPlayers] = commands at continues
  cases continues with
  | @remove starting names listed stale =>
    cases hnames : names.filter e.isStale <;> simp [hnames] at hcommands
  | _ => simp at hcommands

end Engine

namespace Command

/-- No other commands have the text of the one that asks for the players. -/
theorem batch_eq_listPlayers_iff {cs : List Command} :
    batch cs = "scoreboard players list" ↔ cs = [.listPlayers] := by
  have hlist : listPlayers.text = "scoreboard players list" := by decide
  constructor
  · intro h
    match cs with
    | [] => exact absurd h (by decide)
    | [c] =>
      rw [batch_singleton, ← hlist, ← String.toList_inj] at h
      cases c with
      | listPlayers => rfl
      | changeScore change player name count => cases change <;> simp [text, words, ScoreChange.word] at h
      | _ => simp [text, words] at h
    | c :: c' :: cs =>
      -- commands that are sent together stand on several lines
      have hbreak : '\n' ∈ (batch (c :: c' :: cs)).toList := by simp [batch]
      rw [h] at hbreak
      exact absurd hbreak (by decide)
  · rintro rfl
    exact hlist

end Command

end Scoreboard
