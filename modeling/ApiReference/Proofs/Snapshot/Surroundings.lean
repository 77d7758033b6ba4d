import ApiReference.Proofs.Files.Directories
import ApiReference.Snapshot.Run

/-!
Surroundings that runs take place in: files in memory of which one request may be refused for no
reason of its own, a clock, and pages elsewhere. `request_cases` is all that is known of a request
to change files; looking never changes anything.
-/

namespace ApiReference

/-- Files, a clock and pages that a run works with. -/
structure Surroundings where
  files : FileTree
  /-- How many requests to change files are served before one is refused, and what it reports; if
  there is none, all are served. -/
  refusal : Option (Nat × FileFault)
  /-- What the clock shows when it is looked at, and how often that was. -/
  clock : Nat → Timestamp
  looks : Nat
  web : String → FetchSettings → Except Error String
  /-- The steps that were told of, the latest first. -/
  told : List Progress

namespace Surroundings

variable {w w' : Surroundings}

/-- Whether a request will be refused yet. -/
def isArmed (w : Surroundings) : Bool := w.refusal.isSome

/-- Changes the files, unless it is this request that is refused. -/
def request (act : FileTree → Except FileFault Unit × FileTree) (w : Surroundings) :
    Except FileFault Unit × Surroundings :=
  match w.refusal with
  | some (0, fault) => (.error fault, { w with refusal := none })
  | some (served + 1, fault) =>
    ((act w.files).1, { w with files := (act w.files).2, refusal := some (served, fault) })
  | none => ((act w.files).1, { w with files := (act w.files).2 })

instance : Files (StateM Surroundings) where
  makeDirectories p := modifyGet (request (FileTree.makeDirectories p))
  write p content := modifyGet (request (FileTree.write p content))
  read p := do return FileTree.read p (← get).files
  remove p := modifyGet (request (FileTree.change (·.removed p)))
  rename p q := modifyGet (request (FileTree.change (·.renamed p q)))
  isThere p := do return (FileTree.find (← get).files p).toBool
  isDirectory p := do return FileTree.isDirectory (← get).files p
  isFile p := do return match FileTree.find (← get).files p with
    | .ok (.file _) => true
    | _ => false

instance : Host (StateM Surroundings) where
  now := modifyGet fun w => (w.clock w.looks, { w with looks := w.looks + 1 })
  ticks := do return (← get).looks
  fetch url f := do return (← get).web url f

/-- Surroundings of files alone: no page is elsewhere, and all requests are served unless one is to
be refused. -/
def around (files : FileTree) (refusal : Option (Nat × FileFault)) : Surroundings :=
  ⟨files, refusal, fun _ => default, 0, fun _ _ => .ok "", []⟩

/-- Notes a step that a run tells of. -/
def tell (p : Progress) : StateM Surroundings Unit := modify fun w => { w with told := p :: w.told }

/-- A request is served, or it is the one that is refused, which changes no file. -/
theorem request_cases (act : FileTree → Except FileFault Unit × FileTree) (w : Surroundings) :
    ((request act w).1 = (act w.files).1 ∧ (request act w).2.files = (act w.files).2 ∧
      (request act w).2.isArmed = w.isArmed) ∨
    ((∃ fault, (request act w).1 = .error fault) ∧ (request act w).2.files = w.files ∧
      w.isArmed = true ∧ (request act w).2.isArmed = false) := by
  obtain ⟨files, refusal, clock, looks, web, told⟩ := w
  match refusal with
  | none => exact .inl ⟨rfl, rfl, rfl⟩
  | some (0, fault) => exact .inr ⟨⟨fault, rfl⟩, rfl, rfl, rfl⟩
  | some (served + 1, fault) => exact .inl ⟨rfl, rfl, rfl⟩

end Surroundings

theorem run_bind {σ α β : Type} (x : StateM σ α) (f : α → StateM σ β) (s : σ) :
    (x >>= f).run s = (f (x.run s).1).run (x.run s).2 := rfl

end ApiReference
