import ReplicaRouter.Proofs.Interleaving
import ReplicaRouter.Proofs.Lasting
/-
A driver that keeps count of the connections it is opening, and what is expected of drivers whose calls
run side by side: `Final` if what is closed stays closed at every stretch of their work, `Closing` if what
they are told to close is closed as well. An `Outlook` is what a count of connections takes for granted,
anything between nothing at all and a closing driver.
Main statements: over a metered driver, opening a connection is the driver's own work between raising the
meter and lowering it (`World.dial_metered`), and every other call is the driver's own.
-/
namespace ReplicaRouter

variable {W V U D α β : Type}

/-! ## Parts of parts -/

/-- What is put into the part is found there, and nothing else changes. -/
structure Part.Lawful (p : Part W V) : Prop where
  get_set : ∀ v w, p.get (p.set v w) = v
  set_get : ∀ w, p.set (p.get w) w = w
  set_set : ∀ v v' w, p.set v (p.set v' w) = p.set v w

/-- The part of a part. -/
def Part.inner (p : Part W V) (q : Part V U) : Part W U where
  get w := q.get (p.get w)
  set u w := p.set (q.set u (p.get w)) w

theorem Outcome.focus_focus (p : Part W V) (q : Part V U) (o : Outcome U α) (w : W) :
    (o.focus q (p.get w)).focus p w = o.focus (p.inner q) w := by
  induction o generalizing w with
  | done a u => rfl
  | blocked u ready deadline resume ih =>
    show Outcome.blocked _ _ _ _ = Outcome.blocked _ _ _ _
    congr 1
    funext t w'
    exact ih t (q.get (p.get w')) w'

theorem Outcome.focus_set {p : Part W V} (hp : p.Lawful) (o : Outcome V α) (v : V) (w : W) :
    o.focus p (p.set v w) = o.focus p w := by
  cases o with
  | done a u => simp only [Outcome.focus, hp.set_set]
  | blocked u ready deadline resume => simp only [Outcome.focus, hp.set_set]

theorem Outcome.focus_andThen {p : Part W V} (hp : p.Lawful) (now : Instant) (o : Outcome V α)
    (f : α → Routine V β) (w : W) :
    (o.andThen now f).focus p w = (o.focus p w).andThen now fun a => (f a).focus p := by
  induction o generalizing now w with
  | done a v =>
    show (f a now v).focus p w = (f a now (p.get (p.set v w))).focus p (p.set v w)
    rw [hp.get_set, Outcome.focus_set hp]
  | blocked v ready deadline resume ih =>
    show Outcome.blocked _ _ _ _ = Outcome.blocked _ _ _ _
    congr 1
    funext t w'
    exact ih t (p.get w') t w'

namespace Routine

theorem focus_focus (p : Part W V) (q : Part V U) (x : Routine U α) :
    (x.focus q).focus p = x.focus (p.inner q) :=
  funext fun now => funext fun w => Outcome.focus_focus p q (x now (q.get (p.get w))) w

theorem focus_bind {p : Part W V} (hp : p.Lawful) (x : Routine V α) (f : α → Routine V β) :
    (x >>= f).focus p = x.focus p >>= fun a => (f a).focus p :=
  funext fun now => funext fun w => Outcome.focus_andThen hp now (x now (p.get w)) f w

theorem focus_pure {p : Part W V} (hp : p.Lawful) (a : α) : (pure a : Routine V α).focus p = pure a :=
  funext fun _ => funext fun w => congrArg (Outcome.done a) (hp.set_get w)

theorem focus_modify (p : Part W V) (f : V → V) :
    (modify f : Routine V Unit).focus p = modify (p.modify f) := rfl

end Routine

/-! ## Metered drivers -/

/-- A driver together with the number of calls that are opening a connection. -/
structure Metered (D : Type) where
  driver : D
  dialing : Nat := 0

namespace Metered

def driverPart : Part (Metered D) D where
  get m := m.driver
  set d m := { m with driver := d }

def raise (m : Metered D) : Metered D := { m with dialing := m.dialing + 1 }

def lower (m : Metered D) : Metered D := { m with dialing := m.dialing - 1 }

instance [Backend D] : Backend (Metered D) where
  connect protocol host props := do
    modify raise
    let outcome ← (Backend.connect protocol host props).focus driverPart
    modify lower
    return outcome
  invoke c op := (Backend.invoke c op).focus driverPart
  isValid c limit := (Backend.isValid c limit).focus driverPart
  close c := (Backend.close c).focus driverPart
  isClosed c m := Backend.isClosed c m.driver

end Metered

namespace World

theorem lawful_backendPart : (backendPart (D := D)).Lawful := ⟨fun _ _ => rfl, fun _ => rfl, fun _ _ _ => rfl⟩

/-- The driver under the meter. -/
def driverPart : Part (World (Metered D)) D := backendPart.inner Metered.driverPart

variable [Backend D]

theorem dial_metered (protocol : String) (host : Host) (props : Properties) :
    (dial protocol host props : Routine (World (Metered D)) _) = do
      modify (backendPart.modify Metered.raise)
      let outcome ← (Backend.connect protocol host props).focus driverPart
      modify (backendPart.modify Metered.lower)
      Routine.note (.call (.connect protocol host props outcome.toOption))
      return outcome := by
  have hconnect : (Backend.connect protocol host props).focus (backendPart (D := Metered D)) = do
      modify (backendPart.modify Metered.raise)
      let outcome ← (Backend.connect protocol host props).focus driverPart
      modify (backendPart.modify Metered.lower)
      return outcome := by
    show Routine.focus _ (modify _ >>= fun _ => _ >>= fun r => modify _ >>= fun _ => pure r) = _
    simp only [Routine.focus_bind lawful_backendPart, Routine.focus_modify, Routine.focus_focus,
      Routine.focus_pure lawful_backendPart]
    rfl
  rw [dial, hconnect]
  simp only [bind_assoc, pure_bind]

theorem send_metered (c : ConnId) (op : Operation) :
    (send c op : Routine (World (Metered D)) _) = do
      let w ← get
      let outcome ← (Backend.invoke c op).focus driverPart
      Routine.note (.call (.invoke c (!w.isClosed c) op outcome))
      return outcome := by
  show (get >>= fun w => Routine.focus _ (Routine.focus _ _) >>= _) = _
  rw [Routine.focus_focus]
  rfl

theorem hangUp_metered (c : ConnId) :
    (hangUp c : Routine (World (Metered D)) _) = do
      let outcome ← (Backend.close c).focus driverPart
      Routine.note (.call (.close c outcome))
      return outcome := by
  show Routine.focus _ (Routine.focus _ _) >>= _ = _
  rw [Routine.focus_focus]
  rfl

end World

/-! ## What is expected of drivers -/

namespace Backend

variable [Backend D]

/-- A driver that opens no closed connection again, at any stretch of its work. -/
class Final (D : Type) [Backend D] where
  /-- Whether there is such a connection, open or closed. -/
  has : ConnId → D → Prop
  connect (protocol : String) (host : Host) (props : Properties) (d : D) :
    (Backend.connect protocol host props).Abides (Later has) d fun r d' => ∀ c, r = .ok c → has c d'
  invoke (c : ConnId) (op : Operation) (d : D) : (Backend.invoke c op).Abides (Later has) d fun _ _ => True
  close (c : ConnId) (d : D) : (Backend.close c).Abides (Later has) d fun _ _ => True

/-- A driver that also closes what it is told to close, even where it reports an error. -/
class Closing (D : Type) [Backend D] extends Final D where
  closes (c : ConnId) (d : D) :
    (Backend.close c).Abides (Later has) d fun _ d' => has c d → Backend.isClosed c d' = true

/-- What a count of connections takes for granted about the driver. -/
structure Outlook (D : Type) [Backend D] where
  /-- What may become of the driver at a stretch. -/
  later : D → D → Prop
  has : ConnId → D → Prop
  /-- Whether the connection is over for good. -/
  ended : ConnId → D → Prop
  /-- Whether a connection is taken to be over once the driver was told to close it. -/
  trusting : Prop
  refl : ∀ d, later d d
  trans : ∀ {d₁ d₂ d₃}, later d₁ d₂ → later d₂ d₃ → later d₁ d₃
  has_later : ∀ {c d d'}, later d d' → has c d → has c d'
  ended_later : ∀ {c d d'}, later d d' → ended c d → ended c d'
  ended_of_closed : ∀ {c d}, Backend.isClosed c d = true → ended c d
  connect (protocol : String) (host : Host) (props : Properties) (d : D) :
    (Backend.connect protocol host props).Abides later d fun r d' => ∀ c, r = .ok c → has c d'
  invoke (c : ConnId) (op : Operation) (d : D) : (Backend.invoke c op).Abides later d fun _ _ => True
  close (c : ConnId) (d : D) : (Backend.close c).Abides later d fun _ d' => has c d → trusting ∨ ended c d'

namespace Outlook

/-- Nothing is known of the driver, and nothing is said about connections being over. -/
def blank : Outlook D where
  later _ _ := True
  has _ _ := True
  ended _ _ := True
  trusting := True
  refl _ := trivial
  trans _ _ := trivial
  has_later _ _ := trivial
  ended_later _ _ := trivial
  ended_of_closed _ := trivial
  connect _ _ _ d := Routine.abides_of_forall (fun _ _ => trivial) _ (fun _ _ _ _ => trivial) d
  invoke _ _ d := Routine.abides_of_forall (fun _ _ => trivial) _ (fun _ _ => trivial) d
  close _ d := Routine.abides_of_forall (fun _ _ => trivial) _ (fun _ _ _ => .inl trivial) d

theorem blank_isValid (c : ConnId) (limit : Duration) (d : D) :
    (Backend.isValid c limit).Abides (blank (D := D)).later d fun _ _ => True :=
  Routine.abides_of_forall (fun _ _ => trivial) _ (fun _ _ => trivial) d

/-- What is closed is over. The driver is trusted with closing, or else known to close. -/
def ofFinal [Final D] (trusting : Prop)
    (hclose : trusting ∨ ∀ (c : ConnId) (d : D), (Backend.close c).Abides (Later Final.has) d fun _ d' =>
      Final.has c d → Backend.isClosed c d' = true) : Outlook D where
  later := Later Final.has
  has := Final.has
  ended c d := Backend.isClosed c d = true
  trusting := trusting
  refl := .refl
  trans := .trans
  has_later h := h.has _
  ended_later h := h.closed _
  ended_of_closed h := h
  connect := Final.connect
  invoke := Final.invoke
  close c d := hclose.elim (fun h now => (Final.close c d now).imp fun _ _ _ _ => .inl h)
    fun h now => (h c d now).imp fun _ _ h hc => .inr (h hc)

end Outlook

end Backend

/-! ## Staged databases -/

namespace Sim.Cluster

theorem abides_sleep (d : Duration) (c : Cluster) :
    (Routine.sleep (W := Cluster) d).Abides (Backend.Later Has) c fun _ _ => True :=
  Routine.abides_now_bind fun _ => Routine.abides_bind fun now =>
    (Routine.abides_wait _ _ now).imp fun _ _ _ => Routine.abides_pure trivial

theorem abides_connect (host : Host) (c : Cluster) :
    (Cluster.connect host).Abides (Backend.Later Has) c fun r c' => ∀ i, r = .ok i → c'.Has i := by
  refine Routine.abides_get_bind (Routine.abides_bind fun now =>
    (abides_sleep _ c now).imp fun _ c' _ => Routine.abides_modifyGet ?_ ?_)
  · dsimp only
    split
    · exact later_append _ rfl
    · exact ⟨fun _ h => h, fun _ h => h⟩
  · dsimp only
    split
    · rintro _ ⟨⟩
      show c'.conns.length < (c'.conns ++ [_]).length
      simp
    · exact nofun

theorem abides_close (i : ConnId) (c : Cluster) :
    (Backend.close i).Abides (Backend.Later Has) c fun _ c' => c.Has i → Backend.isClosed i c' = true := by
  refine Routine.abides_get_bind (Routine.abides_modify_bind (later_modifyConn i c fun _ => rfl) ?_)
  have hclosed : c.Has i → ((c.modifyConn i fun conn => { conn with closed := true }).conn i).closed = true := by
    intro hi
    rw [conn_modifyConn hi, if_pos rfl]
  split
  · exact Routine.abides_pure hclosed
  · exact Routine.abides_pure hclosed

instance : Backend.Closing Cluster where
  has := Has
  connect _ host _ := abides_connect host
  invoke i op c := Routine.abides_modifyGet (later_modifyConn i c fun h => (closed_run _ op).trans h) trivial
  close i c now := (abides_close i c now).imp fun _ _ _ => trivial
  closes := abides_close

end Sim.Cluster

end ReplicaRouter
