import Scoreboard.Proofs.Table
import Scoreboard.Toml.Parser

/-!
# No key is given twice

A document that defines a key twice is refused. Main statement (`distinct_of_parse?`): in the tree of a document, no
table has a key twice, so a key has one value whatever the order is in which it is written.

A table grows by keys that are not there yet, and on the way to a key only what stands under it changes
(`Entries.Distinct.along?`, `Entries.Distinct.addUnder?`). The values that are read have no key twice, as their tables
are made in the same way (`Grammar.yields_value`).
-/

namespace Scoreboard

open Text (Reader)

/-! ### What readers give -/

namespace Text.Reader

variable {α β : Type} {p : α → Prop} {q : β → Prop} {r r' : Reader α} {f : α → Reader β}

/-- Whether all that a reader takes has a property. -/
def Yields (p : α → Prop) (r : Reader α) : Prop := ∀ cs a rest, r cs = some (a, rest) → p a

theorem Yields.pure {a : α} (h : p a) : Yields p (Pure.pure a) := by
  intro cs a' rest hread
  cases hread
  exact h

/-- What reads nothing yields nothing without the property. -/
theorem Yields.refuse : Yields p (refuse : Reader α) := by
  intro cs a rest hread
  cases hread

/-- A reader after another one may build on what that one yields. -/
theorem Yields.bind (hr : Yields p r) (hf : ∀ a, p a → Yields q (f a)) : Yields q (r >>= f) := by
  intro cs b rest hread
  obtain ⟨⟨a, left⟩, hfirst, hread⟩ := Option.bind_eq_some_iff.mp hread
  exact hf a (hr cs a left hfirst) left b rest hread

/-- What comes first does not matter if nothing is made of it. -/
theorem Yields.after (hf : ∀ a, Yields q (f a)) : Yields q (r >>= f) :=
  Yields.bind (p := fun _ => True) (fun _ _ _ _ => trivial) fun a _ => hf a

/-- Of two readers that yield the property, the first that reads does. -/
theorem Yields.orElse (hr : Yields p r) (hr' : Yields p r') : Yields p (r <|> r') := by
  intro cs a rest hread
  change (r cs <|> r' cs) = some (a, rest) at hread
  rw [Option.orElse_eq_orElse, Option.orElse_eq_or] at hread
  obtain hread | ⟨-, hread⟩ := Option.or_eq_some_iff.mp hread
  · exact hr cs a rest hread
  · exact hr' cs a rest hread

/-- Repeating a reader yields values with the property. -/
theorem Yields.many (hr : Yields p r) : Yields (fun l => ∀ a ∈ l, p a) (many r) := by
  have hmost : ∀ n, Yields (fun l => ∀ a ∈ l, p a) (atMost r n) := by
    intro n
    induction n with
    | zero => exact .pure (List.forall_mem_nil p)
    | succ n ih =>
      refine .orElse (.bind hr fun a ha => .bind ih fun rest hrest => .pure ?_) (.pure (List.forall_mem_nil p))
      exact List.forall_mem_cons.mpr ⟨ha, hrest⟩
  exact fun cs => hmost cs.length cs

theorem Yields.separated (hr : Yields p r) (separator : Reader Unit) :
    Yields (fun l => ∀ a ∈ l, p a) (separated r separator) :=
  .bind hr fun _ ha => .bind (.many (.after fun _ => hr)) fun _ hrest => .pure (List.forall_mem_cons.mpr ⟨ha, hrest⟩)

end Text.Reader

/-! ### Tables that grow -/

namespace Toml

/-- Whether no table in a value has a key twice. -/
inductive Value.Distinct : Value → Prop where
  | text (s : String) : Distinct (.text s)
  | integer (n : Int) : Distinct (.integer n)
  | float : Distinct .float
  | boolean (b : Bool) : Distinct (.boolean b)
  | moment : Distinct .moment
  | array {items : List Value} (values : ∀ v ∈ items, Distinct v) : Distinct (.array items)
  | table {origin : Origin} {es : Entries} (keys : (es.map (·.1)).Nodup) (values : ∀ e ∈ es, Distinct e.2) :
      Distinct (.table origin es)
  | tables {elements : List Entries} (keys : ∀ es ∈ elements, (es.map (·.1)).Nodup)
      (values : ∀ es ∈ elements, ∀ e ∈ es, Distinct e.2) : Distinct (.tables elements)

/-- Whether neither entries nor a table in them have a key twice. -/
structure Entries.Distinct (es : Entries) : Prop where
  keys : (es.map (·.1)).Nodup
  values : ∀ e ∈ es, e.2.Distinct

namespace Entries

open Table (find? put)

variable {es es' inner : Entries} {elements : List Entries} {key : String} {path : List String} {v : Value}
  {origin : Origin} {change : Entries → Option Entries}

theorem Distinct.nil : Distinct [] := ⟨List.nodup_nil, List.forall_mem_nil _⟩

/-- A table as a value has distinct keys just as its entries do. -/
theorem distinct_table_iff : (Value.table origin es).Distinct ↔ Distinct es := by
  constructor
  · intro h
    cases h with
    | table keys values => exact ⟨keys, values⟩
  · rintro ⟨keys, values⟩
    exact .table keys values

/-- An array of tables has distinct keys just if each of its tables has. -/
theorem distinct_tables_iff : (Value.tables elements).Distinct ↔ ∀ es ∈ elements, Distinct es := by
  constructor
  · intro h
    cases h with
    | tables keys values => exact fun es hes => ⟨keys es hes, values es hes⟩
  · intro h
    exact .tables (fun es hes => (h es hes).keys) fun es hes => (h es hes).values

/-- Putting an entry keeps keys distinct at every depth, if the value has distinct ones. -/
theorem Distinct.put (distinct : Distinct es) (key : String) (hv : v.Distinct) : Distinct (put key v es) where
  keys := Table.nodup_put distinct.keys key v
  values e he := by
    obtain rfl | he := Table.mem_put he
    · exact hv
    · exact distinct.values e he

theorem Distinct.putTable (distinct : Distinct es) (key : String) (origin : Origin) (hinner : Distinct inner) :
    Distinct (Table.put key (.table origin inner) es) :=
  distinct.put key (distinct_table_iff.mpr hinner)

theorem Distinct.putTables (distinct : Distinct es) (key : String) (helements : ∀ es ∈ elements, Distinct es) :
    Distinct (Table.put key (.tables elements) es) :=
  distinct.put key (distinct_tables_iff.mpr helements)

theorem Distinct.of_find? (distinct : Distinct es) (h : find? key es = some v) : v.Distinct :=
  distinct.values _ (Table.mem_of_find? h)

theorem Distinct.table_of_find? (distinct : Distinct es) (h : find? key es = some (.table origin inner)) :
    Distinct inner :=
  distinct_table_iff.mp (distinct.of_find? h)

theorem Distinct.tables_of_find? (distinct : Distinct es) (h : find? key es = some (.tables elements)) :
    ∀ es ∈ elements, Distinct es :=
  distinct_tables_iff.mp (distinct.of_find? h)

/-- Adding an entry keeps keys distinct. -/
theorem Distinct.add? (distinct : Distinct es) (hv : v.Distinct) (h : add? key v es = some es') : Distinct es' := by
  unfold Entries.add? at h
  split at h
  · cases h
    exact distinct.put key hv
  · cases h

/-- Opening a table keeps keys distinct. -/
theorem Distinct.openTable? (distinct : Distinct es) (h : openTable? key es = some es') : Distinct es' := by
  unfold Entries.openTable? at h
  split at h
  · cases h
    exact distinct.putTable key .header .nil
  · rename_i hfound
    cases h
    exact distinct.putTable key .header (distinct.table_of_find? hfound)
  · cases h

/-- Opening a new table of an array keeps keys distinct. -/
theorem Distinct.openElement? (distinct : Distinct es) (h : openElement? key es = some es') : Distinct es' := by
  unfold Entries.openElement? at h
  split at h
  · cases h
    exact distinct.putTables key (List.forall_mem_singleton.mpr .nil)
  · rename_i hfound
    cases h
    exact distinct.putTables key (List.forall_mem_cons.mpr ⟨.nil, distinct.tables_of_find? hfound⟩)
  · cases h

/-- On the way to what is changed, only what stands under the keys of the path changes. -/
theorem Distinct.along? (keeps : ∀ {es es'}, Distinct es → change es = some es' → Distinct es')
    (distinct : Distinct es) (h : along? change path es = some es') : Distinct es' := by
  fun_induction Entries.along? change path es generalizing es' with
  | case1 es => exact keeps distinct h
  | case2 key path es hfound ih =>
    obtain ⟨inner, hinner, rfl⟩ := Option.map_eq_some_iff.mp h
    exact distinct.putTable key .implied (ih .nil hinner)
  | case3 => cases h
  | case4 key path es origin inner hfound _ ih =>
    obtain ⟨inner', hinner, rfl⟩ := Option.map_eq_some_iff.mp h
    exact distinct.putTable key origin (ih (distinct.table_of_find? hfound) hinner)
  | case5 key path es newest older hfound ih =>
    obtain ⟨newest', hnewest, rfl⟩ := Option.map_eq_some_iff.mp h
    obtain ⟨hfirst, holder⟩ := List.forall_mem_cons.mp (distinct.tables_of_find? hfound)
    exact distinct.putTables key (List.forall_mem_cons.mpr ⟨ih hfirst hnewest, holder⟩)
  | case6 => cases h

/-- Adding an entry under a path keeps keys distinct. -/
theorem Distinct.addUnder? (distinct : Distinct es) (hv : v.Distinct) (h : addUnder? key v path es = some es') :
    Distinct es' := by
  -- the cases are those of the descent: a table missing on the path is made, one that is there is entered, an array
  -- is entered at its newest table
  fun_induction Entries.addUnder? key v path es generalizing es' with
  | case1 es => exact distinct.add? hv h
  | case2 above es hfound =>
    cases h
    exact distinct.putTable above .dotted (Distinct.nil.put key hv)
  | case3 above es inner hfound =>
    obtain ⟨inner', hinner, rfl⟩ := Option.map_eq_some_iff.mp h
    exact distinct.putTable above .dotted ((distinct.table_of_find? hfound).add? hv hinner)
  | case4 => cases h
  | case5 outer path es _ hfound ih =>
    obtain ⟨inner, hinner, rfl⟩ := Option.map_eq_some_iff.mp h
    exact distinct.putTable outer .dotted (ih .nil hinner)
  | case6 outer path es _ inner hfound ih =>
    obtain ⟨inner', hinner, rfl⟩ := Option.map_eq_some_iff.mp h
    exact distinct.putTable outer .dotted (ih (distinct.table_of_find? hfound) hinner)
  | case7 outer path es _ inner hfound ih =>
    obtain ⟨inner', hinner, rfl⟩ := Option.map_eq_some_iff.mp h
    exact distinct.putTable outer .implied (ih (distinct.table_of_find? hfound) hinner)
  | case8 outer path es _ newest older hfound ih =>
    obtain ⟨newest', hnewest, rfl⟩ := Option.map_eq_some_iff.mp h
    obtain ⟨hfirst, holder⟩ := List.forall_mem_cons.mp (distinct.tables_of_find? hfound)
    exact distinct.putTables outer (List.forall_mem_cons.mpr ⟨ih hfirst hnewest, holder⟩)
  | case9 => cases h

end Entries

/-! ### Documents -/

/-- What every step keeps, a run of steps keeps. -/
theorem of_foldlM {σ α : Type} {p : σ → Prop} {step : σ → α → Option σ} {l : List α}
    (keeps : ∀ a ∈ l, ∀ s s', p s → step s a = some s' → p s') {s s' : σ} (h : p s)
    (hrun : l.foldlM step s = some s') : p s' := by
  induction l generalizing s with
  | nil =>
    cases hrun
    exact h
  | cons a l ih =>
    obtain ⟨hfirst, hrest⟩ := List.forall_mem_cons.mp keeps
    rw [List.foldlM_cons] at hrun
    obtain ⟨next, hstep, hrun⟩ := Option.bind_eq_some_iff.mp hrun
    exact ih hrest (hfirst s next h hstep) hrun

/-- Entries made from pairs have distinct keys. -/
theorem Entries.Distinct.of_ofPairs? {pairs : List (List String × String × Value)} {es : Entries}
    (values : ∀ e ∈ pairs, e.2.2.Distinct) (h : ofPairs? pairs = some es) : Entries.Distinct es :=
  of_foldlM (fun pair hpair _ _ distinct hstep => distinct.addUnder? (values pair hpair) hstep) .nil h

/-- Whether no table in the value on a line has a key twice. -/
def Line.Distinct : Line → Prop
  | .pair _ _ v => v.Distinct
  | _ => True

/-- Taking in a line keeps the document's keys distinct. -/
theorem Document.distinct_addLine? {d d' : Document} {l : Line} (hl : l.Distinct) (distinct : d.entries.Distinct)
    (h : d.addLine? l = some d') : d'.entries.Distinct := by
  cases l with
  | blank =>
    cases h
    exact distinct
  | header path =>
    obtain ⟨key, -, h⟩ := Option.bind_eq_some_iff.mp h
    obtain ⟨es, hes, h⟩ := Option.bind_eq_some_iff.mp h
    cases h
    exact distinct.along? .openTable? hes
  | element path =>
    obtain ⟨key, -, h⟩ := Option.bind_eq_some_iff.mp h
    obtain ⟨es, hes, h⟩ := Option.bind_eq_some_iff.mp h
    cases h
    exact distinct.along? .openElement? hes
  | pair path key v =>
    obtain ⟨es, hes, h⟩ := Option.bind_eq_some_iff.mp h
    cases h
    exact distinct.along? (fun hinner => hinner.addUnder? hl) hes

/-- The document that lines make up has distinct keys. -/
theorem Document.distinct_ofLines? {lines : List Line} {es : Entries} (hlines : ∀ l ∈ lines, l.Distinct)
    (h : ofLines? lines = some es) : es.Distinct := by
  obtain ⟨d, hrun, rfl⟩ := Option.map_eq_some_iff.mp h
  have keeps : ∀ l ∈ lines, ∀ d d' : Document, d.entries.Distinct → d.addLine? l = some d' → d'.entries.Distinct :=
    fun l hl _ _ distinct hstep => distinct_addLine? (hlines l hl) distinct hstep
  exact of_foldlM keeps .nil hrun

/-! ### The grammar -/

namespace Grammar

open Text.Reader

variable {item : Reader Value}

/-- Values that hold no others are no tables. -/
theorem yields_scalar : Yields Value.Distinct scalar := by
  -- a scalar has no keys, whichever of its six forms it is read in
  have htext : Yields Value.Distinct textValue := by
    refine .after fun _ => .after fun _ => ?_
    dsimp only
    split
    · exact .after fun _ => .pure (.text _)
    · exact .after fun _ => .pure (.text _)
  have hboolean : Yields Value.Distinct boolean :=
    .orElse (.after fun _ => .pure (.boolean true)) (.after fun _ => .pure (.boolean false))
  have hmoment : Yields Value.Distinct moment := .after fun _ => .pure .moment
  have hfraction : Yields Value.Distinct fraction := by
    refine .after fun negative => .after fun whole => .after fun part => ?_
    have hread : ∀ power : Option Int, Yields Value.Distinct
        (if !negative && overflows (spell 10 (whole ++ part.getD [])) (power.getD 0 - (part.getD []).length) then refuse
         else pure .float) := by
      intro power
      split
      · exact .refuse
      · exact .pure .float
    split
    · exact .after hread
    · exact .after hread
  have hspecial : Yields Value.Distinct specialFloat := .after fun _ => .after fun _ => .pure .float
  have hinteger : Yields Value.Distinct integer := by
    have hread : ∀ n : Int, Yields Value.Distinct (if isWord64 n then pure (.integer n) else refuse) := by
      intro n
      split
      · exact .pure (.integer n)
      · exact .refuse
    refine .after fun _ => .after fun _ => .after fun _ => ?_
    dsimp only
    split
    · exact .after fun n => hread n
    · exact .after fun negative => .after fun _ => hread _
  exact .orElse htext (.orElse hboolean (.orElse hmoment (.orElse hfraction (.orElse hspecial hinteger))))

/-- An array read has distinct keys, if its items have. -/
theorem yields_arrayOf (hitem : Yields Value.Distinct item) : Yields Value.Distinct (arrayOf item) := by
  refine .after fun _ => .after fun _ => .after fun closed => ?_
  split
  · exact .after fun _ => .pure (.array (List.forall_mem_nil _))
  · have hpadded : Yields Value.Distinct (do gap; let v ← item; gap; return v) :=
      .after fun _ => .bind hitem fun _ hv => .after fun _ => .pure hv
    exact .bind (.separated hpadded _) fun _ hitems =>
      .after fun _ => .after fun _ => .after fun _ => .pure (.array hitems)

/-- A pair read has a value with distinct keys, if values have. -/
theorem yields_pairOf (hitem : Yields Value.Distinct item) :
    Yields (fun pair : List String × String × Value => pair.2.2.Distinct) (pairOf item) := by
  refine .after fun path => .after fun _ => .after fun _ => .bind hitem fun v hv => .after fun _ => ?_
  split
  · exact .pure hv
  · exact .refuse

/-- A table in braces has distinct keys, if values have. -/
theorem yields_bracesOf (hitem : Yields Value.Distinct item) : Yields Value.Distinct (bracesOf item) := by
  refine .after fun _ => .after fun _ => .after fun closed => ?_
  split
  · exact .after fun _ => .pure (Entries.distinct_table_iff.mpr .nil)
  · refine .bind (.separated (yields_pairOf hitem) _) fun pairs hpairs => .after fun _ => ?_
    split
    · rename_i hmade
      exact .pure (Entries.distinct_table_iff.mpr (.of_ofPairs? hpairs hmade))
    · exact .refuse

/-- A value read has distinct keys, however deep it is nested. -/
theorem yields_value (depth : Nat) : Yields Value.Distinct (value depth) := by
  induction depth with
  | zero => exact yields_scalar
  | succ depth ih =>
    refine .after fun next => ?_
    split
    · exact yields_arrayOf ih
    · exact yields_bracesOf ih
    · exact yields_scalar

/-- A line read has a value with distinct keys, if it has one. -/
theorem yields_content : Yields Line.Distinct content := by
  have hheader : Yields Line.Distinct headerLine := .after fun _ => .after fun _ => .after fun _ => .pure trivial
  have helement : Yields Line.Distinct elementLine := .after fun _ => .after fun _ => .after fun _ => .pure trivial
  have hpair : Yields Line.Distinct pairLine := .bind (yields_pairOf (yields_value nesting)) fun _ hv => .pure hv
  refine .after fun _ => .after fun next => ?_
  split
  · exact .pure trivial
  · exact .pure trivial
  · exact .pure trivial
  · exact .pure trivial
  · refine .after fun doubled => ?_
    split
    · exact helement
    · exact hheader
  · exact hpair

/-- All lines of a document read have values with distinct keys. -/
theorem yields_document : Yields (fun lines => ∀ l ∈ lines, l.Distinct) document := by
  have hline : Yields Line.Distinct line :=
    .bind yields_content fun _ hl => .after fun _ => .after fun _ => .after fun _ => .pure hl
  have hnext : Yields Line.Distinct (do
      if (← peek).isNone then refuse
      line) := by
    refine .after fun next => ?_
    split
    · exact .after fun _ => hline
    · exact hline
  exact .after fun _ => .bind (.many hnext) fun _ hlines => .after fun _ => .pure hlines

end Grammar

/-- In the tree of a document no table has a key twice. -/
theorem distinct_of_parse? {text : String} {es : Entries} (h : parse? text = some es) : es.Distinct := by
  obtain ⟨⟨lines, rest⟩, hread, hmade⟩ := Option.bind_eq_some_iff.mp h
  exact Document.distinct_ofLines? (Grammar.yields_document _ lines rest hread) hmade

end Toml

end Scoreboard
