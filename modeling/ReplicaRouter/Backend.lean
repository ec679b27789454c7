import ReplicaRouter.Routine
/-
What the router needs of a database: connections that can be opened, used, checked and closed. The
router never looks behind these five.
-/
namespace ReplicaRouter

/-- Databases as their drivers show them. -/
class Backend (D : Type) where
  connect : (protocol : String) → Host → Properties → Routine D (Except RouteError ConnId)
  invoke : ConnId → Operation → Routine D (Except RouteError Reply)
  /-- Checks a connection; the limit is a hint. -/
  isValid : ConnId → (limit : Duration) → Routine D Bool
  close : ConnId → Routine D (Except RouteError Unit)
  isClosed : ConnId → D → Bool

end ReplicaRouter
