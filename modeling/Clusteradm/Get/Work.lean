import Clusteradm.Kube.Conditions

/-!
# `clusteradm get work`

The command lists the manifest works of one managed cluster, all of them or the one named, and prints them as
a table or as a tree. Both printers read each work through `getFileds`: its namespace as the cluster, its
number of manifests, and the statuses of its first `Applied` and first `Available` conditions, empty when
there is none. The printer itself is outside this source; its tree is modelled by the `AddFileds` calls made
on it. The table's rows hold a pointer, `&work`, to the range loop's variable: the loop declares that
variable once (Go before 1.22), so all rows point at one address, which holds the last work when the loop
ends.
-/

namespace Clusteradm.Get.Work

/-! ## Data -/

/-- `workapiv1.ManifestWork`, by what the command reads: its name, its namespace, the raw manifests of
`Spec.Workload.Manifests`, and `Status.Conditions`. -/
structure ManifestWork where
  name : String
  workNamespace : String
  manifests : List String
  conditions : List Condition
deriving DecidableEq, Repr, Inhabited

/-- The object a printer converter is handed: a `ManifestWorkList`, or an object of another kind. -/
inductive RuntimeObject
  | manifestWorkList (items : List ManifestWork)
  | other (kind : String)
deriving DecidableEq, Repr

/-- `workapiv1.WorkApplied`. -/
def workApplied : String := "Applied"

/-- `workapiv1.WorkAvailable`. -/
def workAvailable : String := "Available"

/-- A table cell: the converters put strings and integers in them. -/
inductive Cell
  | str (s : String)
  | int (n : Nat)
deriving DecidableEq, Repr

/-- `metav1.TableColumnDefinition`, by its name and type. -/
structure TableColumnDefinition where
  name : String
  type : String
deriving DecidableEq, Repr

/-- An address in the memory a converter writes. -/
abbrev Ptr := Nat

/-- The variables whose address a converter takes, by address. -/
abbrev Memory := List ManifestWork

/-- `*p`, when `p` was allocated. -/
def Memory.deref (mem : Memory) (p : Ptr) : Option ManifestWork := mem[p]?

/-- `metav1.TableRow`: its cells, and the pointer its `runtime.RawExtension` holds. -/
structure TableRow where
  cells : List Cell
  object : Ptr
deriving DecidableEq, Repr

/-- `metav1.Table`. -/
structure Table where
  columnDefinitions : List TableColumnDefinition
  rows : List TableRow
deriving DecidableEq, Repr

/-- The command's `Options`: the `--cluster` flag and the work's name. -/
structure Options where
  cluster : String
  workName : String
deriving DecidableEq, Repr

/-- `metav1.ListOptions`, by the field selector, empty when none is set. -/
structure ListOptions where
  fieldSelector : String := ""
deriving DecidableEq, Repr

/-- The outcome of each call the command makes. -/
structure Env where
  validateHub : Except GoError Unit
  printerValidate : Except GoError Unit
  toRESTConfig : Except GoError Unit
  newClusterClient : Except GoError Unit
  newWorkClient : Except GoError Unit
  getManagedCluster : String → Except GoError Unit
  listManifestWorks : String → ListOptions → Except GoError (List ManifestWork)

/-! ## The command -/

/-- `complete`: at most one argument, the work's name. -/
def complete (o : Options) (args : List String) : Except GoError Options :=
  if args.length > 1 then .error (.text "can only specify one manifestwork")
  else .ok (match args.head? with
    | some name => { o with workName := name }
    | none => o)

/-- `validate`. -/
def validate (env : Env) (o : Options) : Except GoError Unit := do
  env.validateHub
  if o.cluster.length = 0 then throw (.text "cluster name must be specified")
  env.printerValidate

/-- The `ListOptions` of `run`: a field selector on the name when a work was named. -/
def listOptions (workName : String) : ListOptions :=
  if workName.length = 0 then {} else { fieldSelector := "name=" ++ workName }

/-- `run`, up to the list it hands the printer. -/
def run (env : Env) (o : Options) : Except GoError (List ManifestWork) := do
  env.toRESTConfig
  env.newClusterClient
  env.newWorkClient
  env.getManagedCluster o.cluster
  env.listManifestWorks o.cluster (listOptions o.workName)

/-- What `getFileds` returns. -/
structure Fields where
  cluster : String
  number : Nat
  applied : String
  available : String
deriving DecidableEq, Repr

/-- The block of `getFileds` run for each of `Applied` and `Available`: the status of the first condition of
type `t`, and the named result's zero value when there is none. -/
def conditionStatus (conditions : List Condition) (t : String) : String :=
  match findStatusCondition conditions t with
  | some cond => cond.status
  | none => ""

/-- `getFileds`. -/
def getFileds (work : ManifestWork) : Fields where
  cluster := work.workNamespace
  number := work.manifests.length
  applied := conditionStatus work.conditions workApplied
  available := conditionStatus work.conditions workAvailable

/-- The columns of `converToTable`. -/
def columnDefinitions : List TableColumnDefinition :=
  [⟨"Name", "string"⟩, ⟨"Cluster", "string"⟩, ⟨"Number Of Manifests", "integer"⟩,
   ⟨"Applied", "string"⟩, ⟨"Available", "string"⟩]

/-- The row `converToTable` appends for `work`, its object pointing at `object`. -/
def tableRow (work : ManifestWork) (object : Ptr) : TableRow :=
  let f := getFileds work
  { cells := [.str work.name, .str f.cluster, .int f.number, .str f.applied, .str f.available], object }

/-- One round of `converToTable`'s loop: the loop variable at `work` is assigned the item, and the row built
from it points at `work`. -/
def tableRound (work : Ptr) (acc : Table × Memory) (item : ManifestWork) : Table × Memory :=
  ({ acc.1 with rows := acc.1.rows ++ [tableRow item work] }, acc.2.set work item)

/-- `converToTable`, with the memory its rows point into. `for _, work := range workList.Items` allocates
`work` once, before the loop, here at address `0`, with the zero value. -/
def converToTable (obj : RuntimeObject) : Table × Memory :=
  let table : Table := { columnDefinitions, rows := [] }
  match obj with
  | .manifestWorkList items => items.foldl (tableRound 0) (table, [default])
  | .other _ => (table, [])

/-! ## The printers -/

/-- `converToTable`'s loop appends one row per item, all pointing at `work`, and leaves in `work` the last
item, if any. -/
theorem tableRound_foldl (work : Ptr) (items : List ManifestWork) (table : Table) (mem : Memory) :
    items.foldl (tableRound work) (table, mem) =
      ({ table with rows := table.rows ++ items.map (tableRow · work) },
        items.foldl (fun mem item => mem.set work item) mem) := by
  induction items generalizing table mem with
  | nil => simp
  | cons item items ih => simp [tableRound, ih]

/-- After assigning each item in turn to an allocated variable, the variable holds the last one. -/
theorem deref_foldl_set {work : Ptr} {mem : Memory} (h : work < mem.length) (items : List ManifestWork)
    (hne : items ≠ []) : (items.foldl (fun mem item => mem.set work item) mem).deref work = items.getLast? := by
  induction items generalizing mem with
  | nil => exact absurd rfl hne
  | cons item items ih =>
      rw [List.foldl_cons]
      cases items with
      | nil => simp [Memory.deref, h]
      | cons next rest =>
          rw [ih (by simpa using h) (List.cons_ne_nil _ _), List.getLast?_cons_cons]

/-- **Every row points at the last work.** Whatever works are listed, every row of the table holds `&work`,
the one variable of the range loop, which holds the last work when the loop ends: a printer that reads a
row's object reads the last work, whichever work the row's cells show. -/
theorem converToTable_rows_point_to_last_work (items : List ManifestWork) :
    ∀ row ∈ (converToTable (.manifestWorkList items)).1.rows,
      (converToTable (.manifestWorkList items)).2.deref row.object = items.getLast? := by
  rw [converToTable, tableRound_foldl]
  intro row hrow
  obtain ⟨item, hitem, rfl⟩ := List.mem_map.mp (by simpa using hrow)
  exact deref_foldl_set (by simp) items (List.ne_nil_of_mem hitem)

/-- The `hello-world` work of `cluster1`, applied and available. -/
def helloWorldWork : ManifestWork :=
  { name := "hello-world", workNamespace := "cluster1", manifests := ["deployment"],
    conditions := [⟨"Applied", "True", "AppliedManifestWorkComplete", ""⟩,
                   ⟨"Available", "True", "ResourcesAvailable", ""⟩] }

/-- The `guestbook` work of `cluster1`, not yet applied. -/
def guestbookWork : ManifestWork :=
  { name := "guestbook", workNamespace := "cluster1", manifests := ["deployment", "service"],
    conditions := [] }

/-- Listing `hello-world` then `guestbook`: the first row shows `hello-world` and points at `guestbook`. -/
theorem converToTable_rows_point_to_last_work_sample :
    let table := converToTable (.manifestWorkList [helloWorldWork, guestbookWork])
    table.1.rows.map (·.cells.head?) = [some (.str "hello-world"), some (.str "guestbook")] ∧
      table.1.rows.map (fun row => table.2.deref row.object) = List.replicate 2 (some guestbookWork) :=
  ⟨rfl, List.map_eq_replicate_iff.mpr (converToTable_rows_point_to_last_work _)⟩

end Clusteradm.Get.Work
