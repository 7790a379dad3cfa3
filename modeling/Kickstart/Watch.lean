/-
# Kickstart.Watch -- checking a file on every change

The directory of a file is watched.  The file is checked once at the start, and again
after every batch of changes that touches it.  A change touches it when it is about
the file itself or about a name equal to the file's, which is how editors save: they
write another file and move it over.  A check that fails is reported and watching
goes on.
-/
import Kickstart.Lint

namespace Kickstart

set_option autoImplicit false

/-- A change to files from outside. -/
inductive FileStep where
  | write (place : Place) (content : Bytes)
  | remove (place : Place)
  | rename (source target : Place)
  deriving Repr

namespace FileStep

/-- The files after a change. -/
def apply (fs : Files) : FileStep → Files
  | .write place content => fs.install place (.file content false)
  | .remove place => fs.removeFile place
  | .rename source target => fs.rename source target

/-- The places a change touches. -/
def touched : FileStep → List Place
  | .write place _ => [place]
  | .remove place => [place]
  | .rename source target => [source, target]

end FileStep

namespace Watch

variable {σ : Type}

/-- A change at a place is one of the watched file. -/
def concerns (fs : Files) (watched place : Place) : Bool :=
  ((fs.get? place).isSome && place = watched) ||
    (place ≠ [] && place.getLast? = watched.getLast?)

/-- Checks the file and says what it found. -/
def report (m : Machine σ) (colours : Bool) (p : Path) (s : σ) : Output × σ :=
  let c := checkFile m s p
  match c.result with
  | .ok problems => (problemLines colours p problems, c.state)
  | .error failure =>
    (.complaint (Style.paint colours [.red] "❌" ++ " " ++ failure.message), c.state)

/-- Goes through batches of changes, one change each. -/
def follow (m : Machine σ) (colours : Bool) (p : Path) (watched : Place) (s : σ) :
    List FileStep → Output
  | [] => .empty
  | change :: rest =>
    let fs := change.apply (m.files s)
    let s := m.withFiles s fs
    let seen := change.touched.filter fun place => place.dropLast = watched.dropLast
    if seen.any (concerns fs watched) then
      let (said, s) := report m colours p s
      .line "" ++ .line (Style.paint colours [.cyan] "🔄 Change detected") ++ said ++ .line "" ++
        follow m colours p watched s rest
    else follow m colours p watched s rest

/-- The lines at the start. -/
def heading (colours : Bool) (p : Path) : Output :=
  .line (Style.paint colours [.bold, .green] "👁️  kickstart-ls - Watch Mode") ++
    .line ("   Watching: " ++ String.ofList p.text) ++
    .line ("   Press " ++ Style.paint colours [.bold, .yellow] "Ctrl+C" ++ " to stop\n")

/-- Watches a file through a list of changes until the user stops it. -/
def run (m : Machine σ) (colours : Bool) (p : Path) (s : σ) (changes : List FileStep) :
    Output × Except Failure Unit :=
  match (m.files s).canonical p with
  | .error _ => (heading colours p, .error (.io (.absent p.text)))
  | .ok [] => (heading colours p, .error (.watch "Cannot determine parent directory"))
  | .ok watched =>
    let (said, s) := report m colours p s
    (heading colours p ++ .line (Style.paint colours [.cyan] "🔄 Initial run...") ++ said ++
      .line "" ++ follow m colours p watched s changes ++
      .line (Style.paint colours [.dimmed] "Stopped watching"), .ok ())

end Watch

end Kickstart
