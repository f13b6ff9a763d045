import ExtensionAtlas.Proofs.Graph.PropertyGraph

/-! What is recorded when an analysis is stored over a connection on which nothing fails: the
statements of the schema and then the orders of the analysis, up to the first that has a fault in
place of a statement. -/

namespace ExtensionAtlas.Graph

/-- The statements in front of the first fault. -/
def completed : List Order → List Statement
  | [] => []
  | .ok statement :: orders => statement :: completed orders
  | .error _ :: _ => []

/-- The first fault, if there is one. -/
def outcome : List Order → Except Fault Unit
  | [] => .ok ()
  | .ok _ :: orders => outcome orders
  | .error fault :: _ => .error fault

theorem completed_map_ok (statements : List Statement) :
    completed (statements.map .ok) = statements := by
  induction statements with
  | nil => rfl
  | cons s ss ih => rw [List.map_cons, completed, ih]

theorem outcome_map_ok (statements : List Statement) : outcome (statements.map .ok) = .ok () := by
  induction statements with
  | nil => rfl
  | cons s ss ih => rw [List.map_cons, outcome, ih]

theorem outcome_append (first second : List Order) :
    outcome (first ++ second) = outcome first >>= fun _ => outcome second := by
  induction first with
  | nil => rfl
  | cons o os ih => cases o <;> [rfl; exact ih]

theorem completed_append (first second : List Order) :
    completed (first ++ second) =
      completed first ++ match outcome first with
        | .ok _ => completed second
        | .error _ => [] := by
  induction first with
  | nil => rfl
  | cons o os ih => cases o <;> [rfl; exact congrArg (_ :: ·) ih]

/-- Orders that run alike: the same statements in front of the first fault, and the same fault. -/
structure RunsAlike (first second : List Order) : Prop where
  outcome_eq : outcome first = outcome second
  completed_eq : completed first = completed second

namespace RunsAlike

variable {α : Type} {first second next next' : List Order}

/-- What stands behind a fault does not matter. -/
theorem of_error (fault : Fault) (first second : List Order) :
    RunsAlike (.error fault :: first) (.error fault :: second) := ⟨rfl, rfl⟩

/-- Orders that come behind others matter only if those run to their end. -/
theorem append (h : RunsAlike first second)
    (hnext : outcome second = .ok () → RunsAlike next next') :
    RunsAlike (first ++ next) (second ++ next') := by
  have houtcome := h.outcome_eq
  cases hend : outcome second with
  | error fault =>
      rw [hend] at houtcome
      constructor
      · rw [outcome_append, outcome_append, houtcome, hend]
        rfl
      · rw [completed_append, completed_append, houtcome, hend, h.completed_eq]
  | ok _ =>
      rw [hend] at houtcome
      constructor
      · rw [outcome_append, outcome_append, houtcome, hend]
        exact (hnext hend).outcome_eq
      · rw [completed_append, completed_append, houtcome, hend, h.completed_eq,
          (hnext hend).completed_eq]

theorem flatMap {xs : List α} {block block' : α → List Order}
    (h : ∀ x ∈ xs, RunsAlike (block x) (block' x)) :
    RunsAlike (xs.flatMap block) (xs.flatMap block') := by
  induction xs with
  | nil => exact ⟨rfl, rfl⟩
  | cons x xs ih =>
      rw [List.forall_mem_cons] at h
      exact h.1.append fun _ => ih h.2

end RunsAlike

namespace Connection

/-- The connection after some more statements have run on it. -/
def record (c : Connection) (statements : List Statement) : Connection :=
  { c with
    statements := c.statements ++ statements
    answers := c.answers.drop statements.length }

theorem record_nil (c : Connection) : c.record [] = c := by
  simp [record]

theorem record_record (c : Connection) (first second : List Statement) :
    (c.record first).record second = c.record (first ++ second) := by
  simp [record, List.drop_drop]

end Connection

namespace Work

/-- A statement takes the next answer. -/
theorem run_execute {c : Connection} (h : c.capacity = none) (statement : Statement) :
    (execute statement).run.run c = (.ok (c.answers.head?.getD []), c.record [statement]) := by
  have hroom : c.hasRoom = true := by rw [Connection.hasRoom, h]
  change (if c.hasRoom then _ else _ : Work (List Json)).run.run c = _
  rw [if_pos hroom]
  rfl

theorem run_order_ok {c : Connection} (h : c.capacity = none) (statement : Statement) :
    (order (.ok statement)).run.run c = (.ok (), c.record [statement]) := by
  change (do let _ ← execute statement).run.run c = _
  rw [ExceptT.run_bind, StateT.run_bind, run_execute h]
  rfl

theorem run_order_error (c : Connection) (fault : Fault) :
    (order (.error fault)).run.run c = (.error fault, c) := rfl

/-- Orders run up to the first fault. -/
theorem run_forM_order {c : Connection} (h : c.capacity = none) (orders : List Order) :
    (orders.forM order).run.run c = (outcome orders, c.record (completed orders)) := by
  induction orders generalizing c with
  | nil => rw [completed, Connection.record_nil]; rfl
  | cons o os ih =>
      change (order o >>= fun _ => os.forM order).run.run c = _
      rw [ExceptT.run_bind, StateT.run_bind]
      cases o with
      | error fault =>
          rw [run_order_error, completed, Connection.record_nil]
          rfl
      | ok statement =>
          have hrecord : (c.record [statement]).capacity = none := h
          rw [run_order_ok h]
          change (os.forM order).run.run (c.record [statement]) = _
          rw [ih hrecord, Connection.record_record]
          rfl

end Work

namespace Store

/-- A session runs its orders up to the first fault. -/
theorem run_session {s : Store} (hconnected : s.connected = true) (orders : List Order)
    {c : Connection} (hc : c.capacity = none) :
    (s.openSession >>= fun _ => orders.forM Work.order).run.run c =
      (outcome orders,
        { c with databases := c.databases ++ [s.database] }.record (completed orders)) := by
  have hopen : s.openSession.run.run c =
      (.ok (), { c with databases := c.databases ++ [s.database] }) := by
    rw [openSession, if_pos hconnected]
    rfl
  have hopened : { c with databases := c.databases ++ [s.database] }.capacity = none := hc
  rw [ExceptT.run_bind, StateT.run_bind, hopen]
  exact Work.run_forM_order hopened orders

/-- Storing an analysis records the statements of the schema and of the analysis, up to the first
fault, and fails exactly if there is one. -/
theorem run_save {s : Store} (hconnected : s.connected = true) (a : Analysis) {c : Connection}
    (hc : c.capacity = none) :
    ((s.save a).run.run c).1 = outcome (s.schema ++ storageOrders a) ∧
      ((s.save a).run.run c).2.statements =
        c.statements ++ completed (s.schema ++ storageOrders a) := by
  have hschema := run_session hconnected s.schema hc
  change ((s.setUp >>= fun _ => s.openSession >>= fun _ =>
    (storageOrders a).forM Work.order).run.run c).1 = _ ∧ ((s.setUp >>= fun _ =>
      s.openSession >>= fun _ => (storageOrders a).forM Work.order).run.run c).2.statements = _
  rw [ExceptT.run_bind, StateT.run_bind, setUp, hschema, outcome_append, completed_append]
  cases outcome s.schema with
  | error fault =>
      rw [List.append_nil]
      exact ⟨rfl, rfl⟩
  | ok _ =>
      have horders := run_session hconnected (storageOrders a)
        (c := { c with databases := c.databases ++ [s.database] }.record (completed s.schema)) hc
      change ((s.openSession >>= fun _ => (storageOrders a).forM Work.order).run.run _).1 = _ ∧
        ((s.openSession >>= fun _ => (storageOrders a).forM Work.order).run.run _).2.statements = _
      rw [horders, ← List.append_assoc]
      exact ⟨rfl, rfl⟩

end Store

end ExtensionAtlas.Graph
