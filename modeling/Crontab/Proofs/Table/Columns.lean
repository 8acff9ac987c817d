import Crontab.Table.Columns
import Mathlib.Data.List.InsertIdx
import Mathlib.Data.List.Nodup

/-!
# Columns hold a table

Columns that begin without tasks and are changed by any attempts hold a table with an id of its own
for each task, and answer every question as that table does.

* `TableChange`, `Columns.change`, `Table.change` — a change of the columns, and of the table.
* `Columns.Holds`, `Holds.after` — the columns of a table, which every change keeps.
* `due_ofTable` — what is due, read off the columns.
* `holds_afterAll`, `columns_refine_table` — after any history the columns hold the table of the
  same history.
-/

set_option autoImplicit false

namespace Crontab

variable {τ : Type}

/-- A change of the task table. -/
inductive TableChange (τ : Type) where
  | add (id : TaskId) (pattern : Pattern) (task : τ)
  | remove (id : TaskId)
  | updatePattern (id : TaskId) (pattern : Pattern)
  | clear

/-- A change of columns. -/
def Columns.change : TableChange τ → Attempt TableError (Columns τ) Unit
  | .add id pattern task => add id pattern task
  | .remove id => remove id
  | .updatePattern id pattern => updatePattern id pattern
  | .clear => clear

namespace Table

/-- The table after a change, or why it is refused. -/
def change (t : Table τ) : TableChange τ → Except TableError (Table τ)
  | .add id pattern task => t.add id pattern task
  | .remove id => t.remove id
  | .updatePattern id pattern => t.updatePattern id pattern
  | .clear => .ok t.clear

/-- The table that a change leaves behind: the same one if it is refused. -/
def afterChange (t : Table τ) (c : TableChange τ) : Table τ :=
  match t.change c with
  | .ok t' => t'
  | .error _ => t

theorem contains_iff {t : Table τ} {id : TaskId} : t.contains id = true ↔ id ∈ t.ids := by
  simp [contains]

/-- A change that is not refused leaves each task an id of its own. -/
theorem nodup_ids_of_change {t t' : Table τ} {c : TableChange τ} (h : t.ids.Nodup)
    (hc : t.change c = .ok t') : t'.ids.Nodup := by
  cases c with
  | add id pattern task =>
    simp only [change, add] at hc
    split at hc
    · cases hc
    · rename_i hid
      cases hc
      rw [contains_iff] at hid
      simpa [ids, List.nodup_append] using ⟨h, fun e he heq => hid (heq ▸ List.mem_map_of_mem he)⟩
  | remove id =>
    simp only [change, remove] at hc
    split at hc
    · cases hc
      exact h.sublist (List.filter_sublist.map _)
    · cases hc
  | updatePattern id pattern =>
    simp only [change, updatePattern] at hc
    split at hc
    · cases hc
      have hids : (t.entries.map fun e => if e.id = id then { e with pattern } else e).map (·.id) =
          t.entries.map (·.id) := by
        rw [List.map_map]
        refine List.map_congr_left fun e _ => ?_
        simp only [Function.comp_apply]
        split <;> rfl
      rwa [ids, hids]
    · cases hc
  | clear =>
    cases hc
    exact List.nodup_nil

/-- Of tasks with ids of their own, an id that is found at a place stands there alone. -/
theorem id_eq_iff_of_findIdx? {t : Table τ} {id : TaskId} {i : Nat} (h : t.ids.Nodup)
    (hi : t.entries.findIdx? (·.id == id) = some i) {j : Nat} (hj : j < t.entries.length) :
    t.entries[j].id = id ↔ j = i := by
  obtain ⟨hlt, hid, -⟩ := List.findIdx?_eq_some_iff_getElem.1 hi
  rw [beq_iff_eq] at hid
  have hlen : t.ids.length = t.entries.length := by simp [ids]
  have hinj := @List.Nodup.getElem_inj_iff _ _ h j (hlen ▸ hj) i (hlen ▸ hlt)
  simpa [ids, hid] using hinj

end Table

/-- Tasks with ids of their own lose one entry when those of an id are taken out. -/
theorem filter_id_ne_eq_eraseP {l : List (Entry τ)} (h : (l.map (·.id)).Nodup) (id : TaskId) :
    l.filter (·.id ≠ id) = l.eraseP (·.id == id) := by
  induction l with
  | nil => rfl
  | cons e l ih =>
    obtain ⟨hfresh, h⟩ := List.nodup_cons.1 h
    by_cases he : e.id = id
    · have hrest : l.filter (·.id ≠ id) = l := by
        refine List.filter_eq_self.2 fun a ha => decide_eq_true fun haid => hfresh ?_
        exact List.mem_map.2 ⟨a, ha, haid.trans he.symm⟩
      rw [List.filter_cons_of_neg (by simpa using he), List.eraseP_cons_of_pos (by simpa using he),
        hrest]
    · rw [List.filter_cons_of_pos (by simpa using he), List.eraseP_cons_of_neg (by simpa using he),
        ih h]

namespace Columns

/-! ## The columns of a table -/

section

variable (t : Table τ) (id : TaskId)

@[simp] theorem toTable_ofTable : (ofTable t).toTable = t := by
  cases t with
  | mk l => simp [toTable, ofTable, List.zip_map', List.zipWith_map, List.zipWith_self]

@[simp] theorem ids_ofTable : (ofTable t).ids = t.ids := rfl

@[simp] theorem size_ofTable : (ofTable t).size = t.size := by
  simp [size, Table.size, Table.ids]

theorem place?_ofTable : (ofTable t).place? id = t.entries.findIdx? (·.id == id) := by
  simp [place?, Table.ids, Function.comp_def]

@[simp] theorem contains_ofTable : (ofTable t).contains id = t.contains id := by
  rw [Bool.eq_iff_iff, Table.contains_iff, contains, place?, List.findIdx?_isSome]
  simp

@[simp] theorem pattern?_ofTable : (ofTable t).pattern? id = t.pattern? id := by
  rw [pattern?, place?_ofTable, Table.pattern?, Table.find?, List.find?_eq_bind_findIdx?_getElem?,
    Option.map_bind]
  simp only [ofTable, List.getElem?_map]
  rfl

@[simp] theorem task?_ofTable : (ofTable t).task? id = t.task? id := by
  rw [task?, place?_ofTable, Table.task?, Table.find?, List.find?_eq_bind_findIdx?_getElem?,
    Option.map_bind]
  simp only [ofTable, List.getElem?_map]
  rfl

@[simp] theorem isEmpty_ofTable : (ofTable t).isEmpty = t.entries.isEmpty := by
  simp [isEmpty, Table.ids]

theorem taskAt?_ofTable (i : Nat) :
    (ofTable t).taskAt? i = t.entries[i]?.map fun e => (e.id, e.task) := by
  rw [taskAt?]
  cases h : t.entries[i]? <;> simp [ofTable, h]

end

/-- What is due is read off the columns as off the table. -/
theorem due_ofTable (t : Table τ) (zone : Zone) (millis : Int) (matchSecond : Bool) :
    (ofTable t).due zone millis matchSecond = t.due zone millis matchSecond := by
  unfold due Table.due
  cases zone.moment? millis with
  | none => rfl
  | some m =>
    simp only
    -- The places of the patterns are those of the entries.
    have hplaces : (ofTable t).patterns.zipIdx =
        t.entries.zipIdx.map (Prod.map (·.pattern) id) := List.zipIdx_map
    have htask : ∀ r ∈ t.entries.zipIdx.filter fun r => r.1.pattern.accepts m matchSecond,
        (ofTable t).taskAt? r.2 = some (r.1.id, r.1.task) := by
      intro r hr
      have hget := (List.mem_zipIdx_iff_getElem?.1 (List.mem_filter.1 hr).1)
      rw [taskAt?_ofTable, hget]
      rfl
    rw [hplaces, List.filter_map, List.filterMap_map]
    simp only [Function.comp_def, Prod.map_fst, Prod.map_snd, id]
    calc (t.entries.zipIdx.filter fun r => r.1.pattern.accepts m matchSecond).filterMap
          (fun r => (ofTable t).taskAt? r.2)
        = (t.entries.zipIdx.filter fun r => r.1.pattern.accepts m matchSecond).filterMap
            (some ∘ fun r => (r.1.id, r.1.task)) := List.filterMap_congr htask
      _ = ((t.entries.zipIdx.filter fun r => r.1.pattern.accepts m matchSecond).map (·.1)).map
            (fun e => (e.id, e.task)) := by
          rw [List.filterMap_eq_map, List.map_map]
          rfl
      _ = ((t.entries.zipIdx.map (·.1)).filter fun e => e.pattern.accepts m matchSecond).map
            (fun e => (e.id, e.task)) := by
          rw [List.filter_map]
          rfl
      _ = (t.entries.filter fun e => e.pattern.accepts m matchSecond).map
            (fun e => (e.id, e.task)) := by
          rw [List.zipIdx_map_fst]

/-! ## Changes of the columns -/

/-- **A change of the columns of a table** is refused as for the table and then leaves the columns
as they were, or gives the columns of the changed table. -/
theorem run_change {t : Table τ} (h : t.ids.Nodup) (c : TableChange τ) :
    (change c).run (ofTable t) = match t.change c with
      | .ok t' => .ok () (ofTable t')
      | .error e => .error e (ofTable t) := by
  cases c with
  | add id pattern task =>
    rw [change, run_add, contains_ofTable, Table.change, Table.add]
    split <;> simp [ofTable]
  | remove id =>
    rw [change, run_remove, place?_ofTable, Table.change, Table.remove, ← contains_ofTable,
      contains, place?_ofTable]
    cases hi : t.entries.findIdx? (·.id == id) with
    | none => rfl
    | some i =>
      have herase : t.entries.filter (·.id ≠ id) = t.entries.eraseIdx i := by
        rw [filter_id_ne_eq_eraseP h, List.eraseP_eq_eraseIdx, hi]
      simp only [Option.isSome_some, if_true, ofTable, herase, List.eraseIdx_map]
  | updatePattern id pattern =>
    rw [change, run_updatePattern, place?_ofTable, Table.change, Table.updatePattern,
      ← contains_ofTable, contains, place?_ofTable]
    cases hi : t.entries.findIdx? (·.id == id) with
    | none => rfl
    | some i =>
      have hpatterns : (t.entries.map (·.pattern)).set i pattern =
          t.entries.map fun e => if e.id = id then pattern else e.pattern := by
        refine List.ext_getElem (by simp) fun j hj _ => ?_
        rw [List.length_set, List.length_map] at hj
        simp only [List.getElem_set, List.getElem_map, t.id_eq_iff_of_findIdx? h hi hj,
          eq_comm (a := i)]
      simp [ofTable, hpatterns, Function.comp_def, apply_ite]
  | clear => exact run_clear (ofTable t)

/-- A change that is refused leaves all three columns as they were. -/
theorem allOrNothing_change (c : TableChange τ) : (change c).AllOrNothing := by
  cases c with
  | add id pattern task => exact allOrNothing_add id pattern task
  | remove id => exact allOrNothing_remove id
  | updatePattern id pattern => exact allOrNothing_updatePattern id pattern
  | clear => exact fun _ _ he => nomatch he

/-- The columns are those of a table whose tasks have ids of their own. -/
structure Holds (c : Columns τ) (t : Table τ) : Prop where
  columns : c = ofTable t
  nodup : t.ids.Nodup

namespace Holds

variable {c : Columns τ} {t : Table τ}

theorem empty : (empty : Columns τ).Holds Table.empty := ⟨rfl, List.nodup_nil⟩

theorem aligned (h : c.Holds t) :
    c.patterns.length = c.ids.length ∧ c.tasks.length = c.ids.length := by
  rw [h.columns]
  simp [ofTable]

theorem result_change (h : c.Holds t) (change : TableChange τ) :
    (Columns.change change).result c = (t.change change).map fun _ => () := by
  have hrun := run_change h.nodup change
  rw [← h.columns] at hrun
  cases hc : t.change change with
  | ok t' =>
    rw [hc] at hrun
    exact Attempt.result_of_ok hrun
  | error e =>
    rw [hc] at hrun
    exact Attempt.result_of_error hrun

theorem after_change (h : c.Holds t) (change : TableChange τ) :
    ((Columns.change change).after c).Holds (t.afterChange change) := by
  have hrun := run_change h.nodup change
  rw [← h.columns] at hrun
  rw [Table.afterChange]
  cases hc : t.change change with
  | ok t' =>
    rw [hc] at hrun
    exact ⟨Attempt.after_of_ok hrun, Table.nodup_ids_of_change h.nodup hc⟩
  | error e =>
    rw [hc] at hrun
    exact ⟨(Attempt.after_of_error hrun).trans h.columns, h.nodup⟩

/-- Every task of the table is found under its id with what belongs to it. -/
theorem find_of_mem (h : c.Holds t) {e : Entry τ} (he : e ∈ t.entries) :
    c.pattern? e.id = some e.pattern ∧ c.task? e.id = some e.task := by
  have hfind : t.find? e.id = some e := by
    cases hf : t.find? e.id with
    | none => exact absurd (beq_self_eq_true e.id) (List.find?_eq_none.1 hf e he)
    | some e' =>
      have hid : e'.id = e.id := by simpa using List.find?_some hf
      exact congrArg some (List.inj_on_of_nodup_map h.nodup (List.mem_of_find?_eq_some hf) he hid)
  rw [h.columns, pattern?_ofTable, task?_ofTable, Table.pattern?, Table.task?, hfind]
  exact ⟨rfl, rfl⟩

end Holds

/-- After any history of changes the columns hold the table of the same history. -/
theorem holds_afterAll (history : List (TableChange τ)) {c : Columns τ} {t : Table τ}
    (h : c.Holds t) :
    (Attempt.afterAll change history c).Holds (history.foldl Table.afterChange t) := by
  induction history generalizing c t with
  | nil => exact h
  | cons change history ih => exact ih (h.after_change change)

/-- **Columns behave like a table whose tasks have ids of their own.**  After any history of
changes, refused ones among them, the columns are equally long and no id stands in them twice; they
hold what the table of the same history holds.  Every further change is refused exactly when the
table refuses it and for the same reason, and then leaves the columns alone; otherwise it gives the
columns of the changed table.  Every question is answered as from the table, so that a task is found
under its own id and with its own pattern. -/
theorem columns_refine_table (history : List (TableChange τ)) :
    let c := Attempt.afterAll Columns.change history Columns.empty
    let t := history.foldl Table.afterChange Table.empty
    (c.patterns.length = c.ids.length ∧ c.tasks.length = c.ids.length ∧ c.ids.Nodup) ∧
    c.toTable = t ∧
    (∀ change : TableChange τ,
      (Columns.change change).result c = ((t.change change).map fun _ => ()) ∧
      ((Columns.change change).after c).toTable = t.afterChange change ∧
      ∀ e, (Columns.change change).result c = .error e → (Columns.change change).after c = c) ∧
    (∀ id, c.pattern? id = t.pattern? id ∧ c.task? id = t.task? id ∧
      c.contains id = t.contains id) ∧
    (∀ e ∈ t.entries, c.pattern? e.id = some e.pattern ∧ c.task? e.id = some e.task) ∧
    c.ids = t.ids ∧ c.size = t.size ∧ c.isEmpty = t.entries.isEmpty := by
  intro c t
  have h : c.Holds t := holds_afterAll history Holds.empty
  refine ⟨⟨h.aligned.1, h.aligned.2, ?_⟩, ?_, fun change => ⟨h.result_change change, ?_,
    fun e he => allOrNothing_change change he⟩, fun id => ?_, fun e => h.find_of_mem, ?_⟩
  · rw [h.columns]
    exact h.nodup
  · rw [h.columns, toTable_ofTable]
  · rw [(h.after_change change).columns, toTable_ofTable]
  · rw [h.columns]
    exact ⟨pattern?_ofTable t id, task?_ofTable t id, contains_ofTable t id⟩
  · rw [h.columns]
    exact ⟨ids_ofTable t, size_ofTable t, isEmpty_ofTable t⟩

/-- The second addition is refused, and so is the change of a task that is gone. -/
example :
    let p : Pattern := ⟨"* * * * *", []⟩
    Attempt.afterAll Columns.change
      [.add (.named "a") p 1, .add (.named "a") p 2, .add (.named "b") p 3, .remove (.named "a"),
        .updatePattern (.named "a") p] Columns.empty = ⟨[.named "b"], [p], [3]⟩ := by decide

end Columns

end Crontab
