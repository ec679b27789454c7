import ReplicaRouter.Provider
import ReplicaRouter.Sim.Cluster
/-
Rigs: small worlds around a scripted database in which one part of the library is tried out, with
names for the things that are borrowed or opened there.
-/
namespace ReplicaRouter.Sim

/-- A shared world over a scripted database. -/
abbrev Net := World Cluster

/-- Worlds around a scripted database. -/
class Rig (R : Type) where
  /-- What is shared with the database. -/
  net : Part R Net

namespace Rig

variable {R α : Type} [Rig R]

/-- Runs work on what is shared with the database. -/
def onNet (x : Routine Net α) : Routine R α := x.focus net

instance : Background R where
  next? r := (Background.next? ((net (R := R)).get r)).map onNet

/-- Changes the script of the database. -/
def script (change : Cluster → Cluster) : Routine R Unit :=
  onNet (modify fun w => { w with backend := change w.backend })

end Rig

/-- Things by name. -/
abbrev Named (α : Type) := List (String × α)

namespace Named

variable {α : Type}

/-- Without a name. -/
def without (name : String) (named : Named α) : Named α := named.filter fun n => n.1 != name

/-- With a thing under a name, in place of the one that had the name. -/
def assign (name : String) (a : α) (named : Named α) : Named α := (name, a) :: named.without name

end Named

/-! ## One pool -/

/-- One pool, and handles borrowed from it. -/
structure PoolRig where
  shared : Net
  handles : Named HandleId := []

namespace PoolRig

instance : Rig PoolRig where
  net := { get := (·.shared), set := fun w r => { r with shared := w } }

def pool (r : PoolRig) : Pool := r.shared.pool 0

/-- A rig with this pool. -/
def ofPool (w : Net) (pool : Pool) : PoolRig where
  shared := { w with pools := [pool] }

/-- Borrows a connection under a name; the handle that had the name before is given up. Answers the
pool's key. -/
def borrow (name : String) : Routine PoolRig (Except RouteError String) := do
  match ← Rig.onNet (World.borrow 0) with
  | .error e => return .error e
  | .ok h =>
    let earlier := (← get).handles.lookup name
    modify fun r => { r with handles := r.handles.assign name h }
    if let some earlier := earlier then Rig.onNet (World.abandon earlier)
    return .ok (← get).pool.key

/-- Gives up the handle of a name. -/
def drop (name : String) (h : HandleId) : Routine PoolRig Unit := do
  modify fun r => { r with handles := r.handles.without name }
  Rig.onNet (World.abandon h)

/-- Works with the handle of a name, if there is one by then. -/
def withHandle (name : String) (work : HandleId → Routine Net Unit) : Routine PoolRig Unit := do
  if let some h := (← get).handles.lookup name then Rig.onNet (work h)

/-- Does one thing after another, each after a time. -/
def later (deeds : List (Duration × Routine PoolRig Unit)) : Routine PoolRig Unit :=
  deeds.forM fun (delay, deed) => do
    Routine.sleep delay
    deed

end PoolRig

/-! ## The providers -/

/-- The choice between pools and the driver, a pooled provider, and links opened by them. -/
structure ProviderRig where
  shared : Net
  providers : Providers
  provider : PooledProvider
  links : Named Link := []

namespace ProviderRig

instance : Rig ProviderRig where
  net := { get := (·.shared), set := fun w r => { r with shared := w } }

/-- Opens a link under a name; the link that had the name before is given up. -/
def connect (name : String) (opening : Routine Net (Except RouteError Link)) :
    Routine ProviderRig (Except RouteError Unit) := do
  match ← Rig.onNet opening with
  | .error e => return .error e
  | .ok l =>
    let earlier := (← get).links.lookup name
    modify fun r => { r with links := r.links.assign name l }
    if let some earlier := earlier then Rig.onNet earlier.settle
    return .ok ()

/-- Gives up the link of a name. -/
def drop (name : String) (l : Link) : Routine ProviderRig Unit := do
  modify fun r => { r with links := r.links.without name }
  Rig.onNet l.settle

def pools (r : ProviderRig) : List Pool := r.shared.cache.values.map r.shared.pool

end ProviderRig

/-- The number that a text spells in decimal digits, if it is one of 64 bits. -/
def decimal? (text : String) : Option Nat :=
  let digits := match text.toList with
    | '+' :: digits => digits
    | digits => digits
  let n := digits.foldl (fun n c => 10 * n + (c.toNat - '0'.toNat)) 0
  if !digits.isEmpty && digits.all Char.isDigit && n ≤ 18446744073709551615 then some n else none

/-- The provider with pools as large as the property `max` says, where it is there. -/
def sizedByProperty (provider : PooledProvider) : PooledProvider :=
  { provider with configure := fun host props config =>
      let config := provider.configure host props config
      match props.value? "max" with
      | some text => { config with maxSize := (decimal? text).getD 0 }
      | none => config }

/-- The provider with a pool for every user of a host. -/
def keyedByUser (provider : PooledProvider) : PooledProvider :=
  { provider with keyOf := fun host props => host.url ++ (props.value? "user").getD "" }

/-- The provider with one pool for everything. -/
def keyedAlike (provider : PooledProvider) : PooledProvider :=
  { provider with keyOf := fun _ _ => "shared" }

end ReplicaRouter.Sim
