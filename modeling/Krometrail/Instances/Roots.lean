import Krometrail.Core.Values
import Krometrail.Lib.Keyed
import Krometrail.Lib.Runs

/-!
# Instance roots

Every instance owns a directory of its own and holds the advisory lock of a file in it.  Other instances test that lock to
count the live ones, and claim it to reclaim a root that nothing owns.  Each step of the file system is one step here, and
the actors (the threads of control of the processes) take theirs in any order.  A lock belongs to a file, by its inode, and
a removal goes by the path.
-/

namespace Krometrail.Instances

open Keyed
open Runs (Run System exists_run)

def recordingCacheMembers : List String :=
  ["index.sqlite3", "index.sqlite3-wal", "index.sqlite3-shm", "index.sqlite3-journal", "segments", "artifacts", ".trash"]

/-- A root directory under its name, with the inode of the lock file in it and the names of its other members. -/
structure Root where
  name : Uuid
  inode : Nat
  lock : Option Nat
  members : List String

/-- An `InstanceRootCandidate`. -/
structure Candidate where
  root : Uuid
  identity : Option Nat
  deriving DecidableEq

/-- A census under way.  `since` lists the ownerships that were held when it started, `names` what it found in the
directory. -/
structure Census where
  owned : Uuid
  since : List (Nat × Uuid)
  names : List Uuid
  unpinned : List Uuid
  candidates : List Candidate
  dead : List Uuid
  deriving DecidableEq

/-- Why a candidate is claimed. -/
inductive Purpose
  | reclaim
  | census (census : Census)
  deriving DecidableEq

/-- The next step of `reclaim_instance_root`. -/
inductive Stage
  | begin
  | check (members : List String)
  | remove (member : String) (members : List String)
  | list
  | recheck
  | unlink
  | removeRoot
  | done
  deriving DecidableEq

/-- What an actor is about to do next. -/
inductive Phase
  | idle
  | made (root : Uuid)
  | opened (root : Uuid) (file : Nat)
  | secured (root : Uuid) (file : Nat)
  | owner (root : Uuid) (file : Nat) (identity : Option Nat) (serial : Nat)
  | counting (census : Census)
  | trying (candidate : Candidate) (purpose : Purpose)
  | tried (candidate : Candidate) (file : Nat) (purpose : Purpose)
  | held (candidate : Candidate) (file : Nat) (purpose : Purpose)
  | counted (root : Uuid) (file : Nat) (census : Census)
  | reclaiming (root : Uuid) (file : Nat) (identity : Nat) (stage : Stage)
  deriving DecidableEq

namespace Phase

/-- The lock file that an actor has open, with the root that it was opened in. -/
def handle : Phase → Option (Uuid × Nat)
  | .opened root file | .secured root file | .owner root file _ _ | .counted root file _ | .reclaiming root file _ _ =>
    some (root, file)
  | .tried candidate file _ | .held candidate file _ => some (candidate.root, file)
  | _ => none

/-- The file that an actor holds the lock of. -/
def holds : Phase → Option Nat
  | .secured _ file | .owner _ file _ _ | .held _ file _ | .counted _ file _ | .reclaiming _ file _ _ => some file
  | _ => none

/-- The root of an ownership that `claim` has returned. -/
def claims : Phase → Option Uuid
  | .counted root _ _ | .reclaiming root _ _ _ => some root
  | _ => none

/-- An ownership that `acquire_new` has returned. -/
def ownership : Phase → Option (Nat × Uuid)
  | .owner root _ _ serial => some (serial, root)
  | _ => none

end Phase

/-- A census that has counted: the roots that it counted as live, its own included, and the ownerships that were held when
it started and when it ended. -/
structure Report where
  live : List Uuid
  since : List (Nat × Uuid)
  until_ : List (Nat × Uuid)

/-- `serial` numbers the ownerships, `robbed` lists the roots from which another actor removed a member while they were
owned. -/
structure State where
  roots : List Root
  phases : List Phase
  serial : Nat
  robbed : List Uuid
  reports : List Report

namespace State

variable (s : State)

def find (root : Uuid) : Option Root := s.roots.find? (·.name = root)

def directoryIdentity (root : Uuid) : Option Nat := (s.find root).map Root.inode

def setPhase (a : Nat) (phase : Phase) : State := { s with phases := s.phases.set a phase }

def updateRoot (root : Uuid) (f : Root → Root) : State :=
  { s with roots := s.roots.map fun r => if r.name = root then f r else r }

/-- `flock`: whether some actor holds the lock of the file. -/
def isLocked (file : Nat) : Bool := s.phases.any fun phase => phase.holds = some file

def ownerships : List (Nat × Uuid) := s.phases.filterMap Phase.ownership

/-- No directory and no file, linked or open, has the inode. -/
def isFresh (inode : Nat) : Bool :=
  s.roots.all (fun r => r.inode ≠ inode ∧ r.lock ≠ some inode) ∧ s.phases.all fun phase => phase.handle.all (·.2 ≠ inode)

/-- A removal from a root by its path. -/
def removal (root : Uuid) (f : Root → Root) : State :=
  { s.updateRoot root f with robbed := (s.ownerships.filter (·.2 = root)).map Prod.snd ++ s.robbed }

/-- `open_lock_file`: the file, and the state with it.  A root that is gone has none. -/
def openLockFile (root : Uuid) (inode : Nat) : Option (Nat × State) :=
  (s.find root).bind fun r =>
    match r.lock with
    | some file => some (file, s)
    | none => if s.isFresh inode then some (inode, s.updateRoot root fun r => { r with lock := some inode }) else none

/-- Where an actor goes on when a candidate is refused: it counts as live. -/
def refused : Purpose → Phase
  | .reclaim => .idle
  | .census census => .counting census

/-- The next step of a census: it pins what it has found, claims one candidate after the other, and reports. -/
def count (a : Nat) (census : Census) : State :=
  match census.unpinned, census.candidates with
  | root :: unpinned, _ =>
    s.setPhase a (.counting { census with
      unpinned, candidates := census.candidates ++ [⟨root, s.directoryIdentity root⟩] })
  | [], candidate :: candidates => s.setPhase a (.trying candidate (.census { census with candidates }))
  | [], [] =>
    { s.setPhase a .idle with
      reports := s.reports ++ [⟨census.owned :: census.names.filter (· ∉ census.dead), census.since, s.ownerships⟩] }

/-- The next step of `reclaim_instance_root`, of the ownership of `root` with `identity`.  What fails ends it. -/
def reclaim (a : Nat) (root : Uuid) (file identity : Nat) (stage : Stage) : State :=
  let goOn (s : State) (stage : Stage) : State := s.setPhase a (.reclaiming root file identity stage)
  let stillOwnsItsRoot := s.directoryIdentity root = some identity
  match stage with
  | .begin => goOn s (if stillOwnsItsRoot then .check recordingCacheMembers else .done)
  | .check [] => goOn s .list
  | .check (member :: members) => goOn s (if stillOwnsItsRoot then .remove member members else .done)
  | .remove member members =>
    goOn (s.removal root fun r => { r with members := r.members.filter (· ≠ member) }) (.check members)
  | .list => goOn s (if (s.find root).any (·.members = []) then .recheck else .done)
  | .recheck => goOn s (if stillOwnsItsRoot then .unlink else .done)
  | .unlink =>
    if (s.find root).any (·.lock.isSome) then goOn (s.removal root fun r => { r with lock := none }) .removeRoot
    else goOn s .done
  | .removeRoot =>
    if (s.find root).any fun r => r.members = [] ∧ r.lock = none then
      goOn { s with
        roots := s.roots.filter (·.name ≠ root)
        robbed := (s.ownerships.filter (·.2 = root)).map Prod.snd ++ s.robbed } .done
    else goOn s .done
  | .done => s.setPhase a .idle

/-- The next step of an actor.  A file that it creates gets the inode. -/
def advance (a inode : Nat) : Phase → Option State
  | .idle | .owner .. => none
  | .made root =>
    match s.openLockFile root inode with
    | none => some (s.setPhase a .idle)
    | some (file, s) => some (s.setPhase a (.opened root file))
  | .opened root file => some (s.setPhase a (if s.isLocked file then .idle else .secured root file))
  | .secured root file =>
    some { s.setPhase a (.owner root file (s.directoryIdentity root) s.serial) with serial := s.serial + 1 }
  | .counting census => some (s.count a census)
  | .trying candidate purpose =>
    if candidate.identity = none then some (s.setPhase a (refused purpose))
    else
      match s.openLockFile candidate.root inode with
      | none => some (s.setPhase a (refused purpose))
      | some (file, s) => some (s.setPhase a (.tried candidate file purpose))
  | .tried candidate file purpose =>
    some (s.setPhase a (if s.isLocked file then refused purpose else .held candidate file purpose))
  | .held candidate file purpose =>
    let identity := s.directoryIdentity candidate.root
    match purpose, identity with
    | .census census, some found =>
      some (s.setPhase a (if candidate.identity = some found then .counted candidate.root file census else .counting census))
    | .reclaim, some found =>
      some (s.setPhase a (if candidate.identity = some found then .reclaiming candidate.root file found .begin else .idle))
    | purpose, none => some (s.setPhase a (refused purpose))
  | .counted root _ census => some (s.setPhase a (.counting { census with dead := census.dead ++ [root] }))
  | .reclaiming root file identity stage => some (s.reclaim a root file identity stage)

end State

/-- What an idle actor starts, the next step of a busy one, the drop of whatever an actor has, and a write of an owner. -/
inductive Action
  | spawn
  | acquireNew (root : Uuid) (inode : Nat)
  | claim (root : Uuid)
  | census (owned : Uuid)
  | advance (inode : Nat)
  | crash
  | write (member : String)

def State.act (s : State) (a : Nat) (phase : Phase) : Action → Option State
  | .spawn => some { s with phases := s.phases ++ [.idle] }
  | .acquireNew root inode =>
    if phase = .idle ∧ s.find root = none ∧ s.isFresh inode then
      some { s.setPhase a (.made root) with roots := s.roots ++ [⟨root, inode, none, []⟩] }
    else none
  | .claim root => if phase = .idle then some (s.setPhase a (.trying ⟨root, s.directoryIdentity root⟩ .reclaim)) else none
  | .census owned =>
    let names := (s.roots.map Root.name).filter (· ≠ owned)
    if phase = .idle then some (s.setPhase a (.counting ⟨owned, s.ownerships, names, names, [], []⟩)) else none
  | .advance inode => s.advance a inode phase
  | .crash => some (s.setPhase a .idle)
  | .write member =>
    match phase with
    | .owner root _ _ _ => some (s.updateRoot root fun r => { r with members := r.members ++ [member] })
    | _ => none

def State.exec (s : State) (input : Nat × Action) : Option State :=
  s.phases[input.1]?.bind fun phase => s.act input.1 phase input.2

/-- A data directory with roots of earlier instances, that nothing owns any more, and one idle actor. -/
structure State.Initial (s : State) : Prop where
  names : UniqueKeys Root.name s.roots
  phases : s.phases = [.idle]
  robbed : s.robbed = []
  reports : s.reports = []

def dataDirectory : System State (Nat × Action) Unit := .ofExec State.Initial State.exec

/-- What is promised of the ownerships that `acquire_new` has returned. -/
structure State.Exclusive (s : State) : Prop where
  root : ∀ (a : Nat) root file identity serial, s.phases[a]? = some (Phase.owner root file identity serial) →
    ∃ inode, identity = some inode ∧ s.directoryIdentity root = some inode
  claims : ∀ (a : Nat) root file identity serial, s.phases[a]? = some (Phase.owner root file identity serial) →
    ∀ phase ∈ s.phases, phase.claims ≠ some root
  robbed : s.robbed = []
  census : ∀ report ∈ s.reports, ∀ ownership ∈ report.since, ownership ∈ report.until_ → ownership.2 ∈ report.live

/-- `acquire_new` locks the file that its root has as its lock, and no other actor has an earlier one of the root open. -/
def Secure (s : State) (input : Nat × Action) : Prop :=
  ∀ inode root file, input.2 = .advance inode → s.phases[input.1]? = some (.opened root file) → s.isLocked file = false →
    (∃ r, s.find root = some r ∧ r.lock = some file) ∧
      ∀ (b : Nat) (phase : Phase), b ≠ input.1 → s.phases[b]? = some phase →
        ∀ found, phase.handle = some (root, found) → found = file

def someRoot : Uuid := someUuid 1

/-- An instance makes its root and opens the lock file; a reclaimer finds the root, locks the file first, and removes both;
then the instance locks the file that it has opened. -/
def removedInBetween : List (Nat × Action) :=
  [(0, .spawn), (0, .acquireNew someRoot 10), (0, .advance 20), (1, .claim someRoot)] ++ List.replicate 24 (1, .advance 0) ++
    [(0, .advance 0), (0, .advance 0)]

theorem owned_root_removed : ¬ ∀ s, dataDirectory.Reachable s → s.Exclusive := by
  intro hall
  obtain ⟨s, hs, hphase, hroots⟩ := Runs.exists_reachable State.Initial State.exec ⟨[], [.idle], 0, [], []⟩
    ⟨unique_nil, rfl, rfl, rfl⟩ removedInBetween
    (fun s => s.phases[0]? = some (.owner someRoot 20 none 0) ∧ s.roots = []) (by decide +kernel)
  obtain ⟨inode, hidentity, -⟩ := (hall s hs).root 0 _ _ _ _ hphase
  cases hidentity

end Krometrail.Instances
