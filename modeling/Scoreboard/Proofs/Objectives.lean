import Scoreboard.Proofs.Cleanup
import Scoreboard.Proofs.Host.Registry

/-!
# Which objectives a cleanup removes

A cleanup goes by names: what starts like a generated trigger and is not bound is removed. The name of a
plugin's objective starts with the plugin's token, and a token is any five symbols of base64, so one may
start like a trigger itself. Main statement (`registrySpared_of_trace`): in every trace, a cleanup removes an
objective of a plugin just if it is listed, is not bound as a trigger, and the plugin's token starts like a
trigger; all other objectives that are ever registered are left alone (`RegistrySpared`). There are plugins
with such a token, whose objectives do get lost (`removes_registered`).
-/

namespace Scoreboard

namespace Plugin

/-- Whether a plugin's token starts like a generated trigger. -/
def isTriggerLike (plugin : Plugin) : Bool := Trigger.isGenerated plugin.namespaceToken

/-- The token alone decides whether an objective's name is one of a generated trigger: it is longer than what
these start with. -/
theorem isGenerated_objectiveName (plugin : Plugin) (name : String) :
    Trigger.isGenerated (plugin.objectiveName name) = plugin.isTriggerLike := by
  have hfamily : Trigger.family.toList.length = 4 := by decide
  have htoken := plugin.length_namespaceToken
  have hname : (plugin.objectiveName name).toList = plugin.namespaceToken.toList ++ ("_" ++ name).toList := by
    simp [objectiveName]
  rw [isTriggerLike, Trigger.isGenerated, Trigger.isGenerated, hname, Bool.eq_iff_iff,
    List.isPrefixOf_iff_prefix, List.isPrefixOf_iff_prefix]
  constructor
  · intro hprefix
    exact List.prefix_of_prefix_length_le hprefix (List.prefix_append _ _) (by omega)
  · intro hprefix
    exact hprefix.trans (List.prefix_append _ _)

end Plugin

namespace Host

/-- Whether a turn takes a listing for an engine's cleanup in which an objective stands. -/
def Taken.Lists (i : Nat) (s : Taken) (objective : String) : Prop :=
  ∃ origin starting reply names, s.turn = .resume origin i (.listingObjectives starting) reply ∧
    Reply.objectives? reply = some names ∧ objective ∈ names

/-- Whether a turn has an engine remove an objective in a cleanup. -/
def Taken.Removes (i : Nat) (s : Taken) (objective : String) : Prop :=
  ∃ commands, s.CleansUp i commands ∧ .removeObjective objective ∈ commands

/-- What a cleanup spares of an engine's registry: everything but objectives of plugins whose token makes them look
like triggers. -/
structure RegistrySpared (i : Nat) (past : List Taken) (h : Host) : Prop where
  /-- What is registered is an objective of a plugin. -/
  named : ∀ objective ∈ h.registry i, ∃ plugin : Plugin, ∃ name, objective = plugin.objectiveName name
  /-- A plugin's objective is removed just if it is listed, is not bound, and its plugin's token starts like a
  trigger. -/
  removed : ∀ s ∈ past, ∀ (plugin : Plugin) name, s.Removes i (plugin.objectiveName name) ↔
    plugin.isTriggerLike ∧ s.Lists i (plugin.objectiveName name) ∧
      s.host.bound? i (plugin.objectiveName name) = none
  /-- What is removed and registered before or after is an objective of a plugin with such a token. -/
  spared : ∀ s ∈ past, ∀ objective ∈ h.registry i, s.Removes i objective →
    ∃ plugin : Plugin, ∃ name, objective = plugin.objectiveName name ∧ plugin.isTriggerLike

variable {latency : Nat} {rules : List Rule} {draws : Draws} {config : Config} {h : Host}
  {past : List Taken} {s : Taken} {i : Nat} {objective : String}

/-- A turn removes what it has found listed and stale. -/
theorem removes_iff : s.Removes i objective ↔
    s.Lists i objective ∧ ∃ e, s.host.engines[i]? = some e ∧ e.isStale objective := by
  constructor
  · rintro ⟨commands, cleans, hcommand⟩
    obtain ⟨e, origin, starting, reply, names, he, hturn, listed, -, rfl⟩ := cleansUp_iff.mp cleans
    obtain ⟨name, hname, hcommand⟩ := List.mem_map.mp hcommand
    cases hcommand
    obtain ⟨hmem, stale⟩ := List.mem_filter.mp hname
    exact ⟨⟨origin, starting, reply, names, hturn, listed, hmem⟩, e, he, stale⟩
  · rintro ⟨⟨origin, starting, reply, names, hturn, listed, hmem⟩, e, he, stale⟩
    have hstale : objective ∈ names.filter e.isStale := List.mem_filter.mpr ⟨hmem, stale⟩
    have cleans : s.CleansUp i ((names.filter e.isStale).map .removeObjective) :=
      cleansUp_iff.mpr ⟨e, origin, starting, reply, names, he, hturn, listed,
        List.ne_nil_of_mem hstale, rfl⟩
    exact ⟨_, cleans, List.mem_map_of_mem hstale⟩

/-- A listing is taken by an engine that exists. -/
theorem Trace.exists_of_lists (trace : Trace (start latency rules draws config) past h) (hs : s ∈ past)
    (lists : s.Lists i objective) : ∃ e, s.host.engines[i]? = some e := by
  obtain ⟨origin, starting, reply, names, hturn, -, -⟩ := lists
  exact exists_of_memory? (trace.asked_of_mem hs hturn).1

/-- A plugin's objective is removed just if it looks like a trigger, is listed, and is not bound. -/
theorem Trace.removes_objectiveName_iff (trace : Trace (start latency rules draws config) past h)
    (hs : s ∈ past) (plugin : Plugin) (name : String) :
    s.Removes i (plugin.objectiveName name) ↔ plugin.isTriggerLike ∧ s.Lists i (plugin.objectiveName name) ∧
      s.host.bound? i (plugin.objectiveName name) = none := by
  rw [removes_iff]
  constructor
  · rintro ⟨lists, e, he, stale⟩
    obtain ⟨generated, hfree⟩ := Engine.isStale_eq_true_iff.mp stale
    rw [plugin.isGenerated_objectiveName] at generated
    refine ⟨generated, lists, ?_⟩
    rw [bound?, he, Option.bind_some, hfree]
  · rintro ⟨triggerLike, lists, hfree⟩
    obtain ⟨e, he⟩ := trace.exists_of_lists hs lists
    rw [bound?, he, Option.bind_some] at hfree
    have generated : Trigger.isGenerated (plugin.objectiveName name) := by
      rw [plugin.isGenerated_objectiveName, triggerLike]
    exact ⟨lists, e, he, Engine.isStale_eq_true_iff.mpr ⟨generated, hfree⟩⟩

/-- In every trace, cleaning up leaves the objectives of plugins whose token does not start like a trigger. -/
theorem registrySpared_of_trace (trace : Trace (start latency rules draws config) past h) (i : Nat) :
    RegistrySpared i past h where
  named objective hmem := by
    obtain ⟨-, -, -, plugin, name, -, -, -, hname⟩ := trace.isEnsured hmem
    exact ⟨plugin, name, hname⟩
  removed s hs plugin name := trace.removes_objectiveName_iff hs plugin name
  spared s hs objective hmem removes := by
    obtain ⟨-, -, -, plugin, name, -, -, -, rfl⟩ := trace.isEnsured hmem
    exact ⟨plugin, name, rfl, ((trace.removes_objectiveName_iff hs plugin name).mp removes).1⟩

/-- A run in which a registered objective is listed together with a trigger that is left over. -/
theorem registrySpared_of_listing : ∃ past h,
    Trace (start 0 [.toStart "scoreboard objectives list" "left: [tQaBe_kills], [tri_old]"] {} {}) past h ∧
      RegistrySpared 0 past h ∧ h.registry 0 = ["tQaBe_kills"] ∧
        h.upkeepLines 0 = ["scoreboard objectives remove tri_old"] := by
  let rules := [Rule.toStart "scoreboard objectives list" "left: [tQaBe_kills], [tri_old]"]
  let ensure := Request.operate 0 (.ensure ⟨"demo", "demo"⟩ "kills" "dummy" "Kills")
  let cleanup := Request.operate 0 .removeStale
  have run : (((start 0 rules {} {}).drive 50 ensure).bind (drive 50 · cleanup)).map
      (fun h => (h.registry 0, h.upkeepLines 0)) =
        some (["tQaBe_kills"], ["scoreboard objectives remove tri_old"]) := by decide +kernel
  obtain ⟨h, hdriven, hend⟩ := Option.map_eq_some_iff.mp run
  obtain ⟨hregistry, hlines⟩ := Prod.mk.inj hend
  obtain ⟨ensured, hensured, hcleaned⟩ := Option.bind_eq_some_iff.mp hdriven
  obtain ⟨past, trace⟩ := (steps_of_drive hensured).trans (steps_of_drive hcleaned)
  exact ⟨past, h, trace, registrySpared_of_trace trace 0, hregistry, hlines⟩

/-- A plugin whose token is `tri_a`: its objective has been registered, and a cleanup removes it. -/
theorem removes_registered : ∃ past ensured recent h,
    Trace (start 0 [.toStart "scoreboard objectives list" "left: [tri_a_kills]"] {} {}) past ensured ∧
      Trace ensured recent h ∧ ensured.registry 0 = [(Plugin.mk "apfaes" "apfaes").objectiveName "kills"] ∧
        ∃ s ∈ recent, s.Removes 0 ((Plugin.mk "apfaes" "apfaes").objectiveName "kills") := by
  let rules := [Rule.toStart "scoreboard objectives list" "left: [tri_a_kills]"]
  let ensure := Request.operate 0 (.ensure ⟨"apfaes", "apfaes"⟩ "kills" "dummy" "Kills")
  let cleanup := Request.operate 0 .removeStale
  have hname : (Plugin.mk "apfaes" "apfaes").objectiveName "kills" = "tri_a_kills" := by decide +kernel
  have run : ((start 0 rules {} {}).drive 50 ensure).bind (fun ensured =>
      (ensured.drive 50 cleanup).map fun h =>
        (ensured.registry 0, ensured.cleanups 0, h.cleanups 0)) =
          some (["tri_a_kills"], [], [[.removeObjective "tri_a_kills"]]) := by decide +kernel
  obtain ⟨ensured, hensured, hrun⟩ := Option.bind_eq_some_iff.mp run
  obtain ⟨h, hcleaned, hend⟩ := Option.map_eq_some_iff.mp hrun
  obtain ⟨hregistry, hbefore, hafter⟩ : ensured.registry 0 = ["tri_a_kills"] ∧
      ensured.cleanups 0 = [] ∧ h.cleanups 0 = [[.removeObjective "tri_a_kills"]] := by simpa using hend
  obtain ⟨past, trace⟩ := steps_of_drive hensured
  obtain ⟨recent, later⟩ := steps_of_drive hcleaned
  obtain ⟨s, hs, cleans⟩ := later.exists_cleansUp (by rw [hafter]; exact List.mem_cons_self) (by simp [hbefore])
  rw [hname]
  exact ⟨past, ensured, recent, h, trace, later, hregistry, s, hs, _, cleans, List.mem_cons_self⟩

end Host

end Scoreboard
