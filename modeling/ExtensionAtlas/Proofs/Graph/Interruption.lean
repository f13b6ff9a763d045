import ExtensionAtlas.Graph.Store

/-! Work on a connection that gives out. The connection fails at the first statement for which there
is no room, so what has run by then is the front of what runs where there is room for everything.
Each operation is compared on both connections, and storing, which is put together from such
operations, compares in the same way. What makes and closes connections is followed apart from
that. -/

namespace ExtensionAtlas.Graph

namespace Connection

/-- The connection with room for any number of statements. -/
def unlimited (c : Connection) : Connection := { c with capacity := none }

/-- The connection with room for some more statements, the next one of which fails. -/
def limitedTo (n : Nat) (c : Connection) : Connection :=
  { c with capacity := some (c.statements.length + n) }

end Connection

namespace Work

variable {α β : Type} {work : Work α} {next : α → Work β}

/-- A property of work that the single steps of storing have and that passes on to work that is put
together from such. -/
structure HoldsOfSteps (P : (α : Type) → Work α → Prop) : Prop where
  result : ∀ {α : Type} (x : Except Fault α), P α (ExceptT.mk (pure x))
  bind : ∀ {α β : Type} {work : Work α} {next : α → Work β},
    P α work → (∀ x, P β (next x)) → P β (work >>= next)
  execute : ∀ statement, P (List Json) (execute statement)
  openSession : ∀ database, P Unit (openSession database)

namespace HoldsOfSteps

variable {P : (α : Type) → Work α → Prop} (h : HoldsOfSteps P)

include h

theorem order (o : Order) : P Unit (order o) := by
  cases o with
  | error fault => exact h.result (.error fault)
  | ok statement => exact h.bind (h.execute statement) fun _ => h.result (.ok ())

theorem forM_order (orders : List Order) : P PUnit (orders.forM Work.order) := by
  induction orders with
  | nil => exact h.result (.ok ())
  | cons o os ih => exact h.bind (h.order o) fun _ => ih

theorem storeSession (s : Store) : P Unit s.openSession := by
  rw [Store.openSession]
  split
  · exact h.openSession s.database
  · exact h.result (.error .databaseAbsent)

theorem carryOut (s : Store) (orders : List Order) : P PUnit (s.carryOut orders) :=
  have hschema : P PUnit s.setUp := h.bind (h.storeSession s) fun _ => h.forM_order s.schema
  h.bind hschema fun _ => h.bind (h.storeSession s) fun _ => h.forM_order orders

end HoldsOfSteps

/-- Work that neither asks for a connection nor closes one. -/
structure KeepsOpen {α : Type} (work : Work α) : Prop where
  opened : ∀ c : Connection, (work.run.run c).2.opened = c.opened
  refused : ∀ c : Connection, (work.run.run c).2.refused = c.refused
  closed : ∀ c : Connection, (work.run.run c).2.closed = c.closed
  complaint : ∀ c : Connection, (work.run.run c).2.complaint? = c.complaint?

namespace KeepsOpen

theorem result (x : Except Fault α) : KeepsOpen (ExceptT.mk (pure x)) :=
  ⟨fun _ => rfl, fun _ => rfl, fun _ => rfl, fun _ => rfl⟩

theorem run_bind_eq (work : Work α) (next : α → Work β) (c : Connection) :
    ((work >>= next).run.run c).2 = match work.run.run c with
      | (.ok x, d) => ((next x).run.run d).2
      | (.error _, d) => d := by
  rw [ExceptT.run_bind, StateT.run_bind]
  rcases work.run.run c with ⟨x | x, d⟩ <;> rfl

theorem bind (h : KeepsOpen work) (hnext : ∀ x, KeepsOpen (next x)) :
    KeepsOpen (work >>= next) := by
  have hview {γ : Type} (view : Connection → γ) (hwork : ∀ c, view (work.run.run c).2 = view c)
      (hnext : ∀ x c, view ((next x).run.run c).2 = view c) (c : Connection) :
      view ((work >>= next).run.run c).2 = view c := by
    have hfirst := hwork c
    rw [run_bind_eq]
    rcases hrun : work.run.run c with ⟨x | x, d⟩ <;> rw [hrun] at hfirst
    · exact hfirst
    · exact (hnext x d).trans hfirst
  exact ⟨hview _ h.opened fun x => (hnext x).opened, hview _ h.refused fun x => (hnext x).refused,
    hview _ h.closed fun x => (hnext x).closed, hview _ h.complaint fun x => (hnext x).complaint⟩

theorem map (h : KeepsOpen work) (f : α → β) : KeepsOpen (f <$> work) := by
  rw [← bind_pure_comp]
  exact h.bind fun x => result (.ok (f x))

theorem execute (statement : Statement) : KeepsOpen (execute statement) := by
  have hview {γ : Type} (view : Connection → γ)
      (hstep : ∀ c : Connection, view { c with
        statements := c.statements ++ [statement], answers := c.answers.drop 1 } = view c)
      (c : Connection) : view ((Work.execute statement).run.run c).2 = view c := by
    change view ((if c.hasRoom then _ else _ : Work (List Json)).run.run c).2 = _
    split
    · exact hstep c
    · rfl
  exact ⟨hview _ fun _ => rfl, hview _ fun _ => rfl, hview _ fun _ => rfl, hview _ fun _ => rfl⟩

theorem openSession (database : Database) : KeepsOpen (openSession database) :=
  ⟨fun _ => rfl, fun _ => rfl, fun _ => rfl, fun _ => rfl⟩

theorem holdsOfSteps : HoldsOfSteps fun _ work => KeepsOpen work where
  result := result
  bind := bind
  execute := execute
  openSession := openSession

end KeepsOpen

/-- What some work does on a connection with room for `n` more statements, when on one with room for
everything it has `result` and the statements `log` run: the same if there is room for them, and
otherwise it fails behind the first `n` of them. -/
structure Matches (work : Work α) (c : Connection) (result : Except Fault α × Connection)
    (log : List Statement) (n : Nat) : Prop where
  of_le : log.length ≤ n →
    work.run.run (c.limitedTo n) = (result.1, result.2.limitedTo (n - log.length))
  of_lt : n < log.length → ∃ d, work.run.run (c.limitedTo n) = (.error .queryFailed, d)
    ∧ d.statements = c.statements ++ log.take n

/-- Work that compares on connections with and without a limit. -/
def Interruptible (work : Work α) : Prop :=
  ∀ c : Connection, c.capacity = none → ∃ result log, work.run.run c = result
    ∧ result.2.capacity = none ∧ result.2.statements = c.statements ++ log
    ∧ ∀ n, work.Matches c result log n

namespace Interruptible

/-- Work that runs no statement goes on alike whatever the limit. -/
theorem of_silent (hcapacity : ∀ c, (work.run.run c).2.capacity = c.capacity)
    (hstatements : ∀ c, (work.run.run c).2.statements = c.statements)
    (hlimited : ∀ c n, work.run.run (c.limitedTo n) =
      ((work.run.run c).1, (work.run.run c).2.limitedTo n)) : Interruptible work := by
  intro c hc
  refine ⟨_, [], rfl, (hcapacity c).trans hc, ?_, fun n => ⟨fun _ => ?_, fun h => ?_⟩⟩
  · rw [hstatements, List.append_nil]
  · rw [hlimited]
    rfl
  · exact absurd h (Nat.not_lt_zero n)

theorem result (x : Except Fault α) : Interruptible (ExceptT.mk (pure x)) :=
  of_silent (fun _ => rfl) (fun _ => rfl) fun _ _ => rfl

/-- Settings are refused or not whatever the limit. -/
theorem connect (settings : ConnectionSettings) : Interruptible (connect settings) := by
  have hrun (c : Connection) : (Work.connect settings).run.run c = c.attempt settings := rfl
  refine of_silent (fun c => ?_) (fun c => ?_) fun c n => ?_
  · rw [hrun, Connection.attempt]
    split <;> rfl
  · rw [hrun, Connection.attempt]
    split <;> rfl
  · have hsame : (c.limitedTo n).complaint? = c.complaint? := rfl
    rw [hrun, hrun, Connection.attempt, Connection.attempt, hsame]
    split <;> rfl

theorem openSession (database : Database) : Interruptible (openSession database) :=
  of_silent (fun _ => rfl) (fun _ => rfl) fun _ _ => rfl

/-- A statement runs if there is room for one more. -/
theorem execute (statement : Statement) : Interruptible (execute statement) := by
  have hrun (c : Connection) : (Work.execute statement).run.run c =
      if c.hasRoom then
        (.ok (c.answers.head?.getD []),
          { c with statements := c.statements ++ [statement], answers := c.answers.drop 1 })
      else (.error .queryFailed, c) := by
    change (if c.hasRoom then _ else _ : Work (List Json)).run.run c = _
    split <;> rfl
  have hroom (c : Connection) (n : Nat) : (c.limitedTo n).hasRoom = decide (0 < n) := by
    simp [Connection.hasRoom, Connection.limitedTo]
  intro c hc
  have hfree : c.hasRoom = true := by rw [Connection.hasRoom, hc]
  refine ⟨_, [statement], (hrun c).trans (if_pos hfree), hc, rfl, fun n => ⟨fun h => ?_, ?_⟩⟩
  · have hpos : 0 < n := h
    rw [hrun, hroom, if_pos (decide_eq_true hpos)]
    simp only [Connection.limitedTo, List.length_append, List.length_singleton]
    rw [show c.statements.length + 1 + (n - 1) = c.statements.length + n by omega]
  · intro h
    obtain rfl : n = 0 := Nat.lt_one_iff.1 h
    refine ⟨c.limitedTo 0, ?_, (List.append_nil _).symm⟩
    rw [hrun, hroom]
    rfl

/-- What comes behind starts with the room that is left. -/
theorem bind (h : Interruptible work) (hnext : ∀ x, Interruptible (next x)) :
    Interruptible (work >>= next) := by
  have hbind (c : Connection) : (work >>= next).run.run c =
      match work.run.run c with
      | (.ok x, d) => (next x).run.run d
      | (.error fault, d) => (.error fault, d) := by
    rw [ExceptT.run_bind, StateT.run_bind]
    rcases work.run.run c with ⟨fault | x, d⟩ <;> rfl
  intro c hc
  obtain ⟨⟨fault | x, d⟩, log, hrun, hcapacity, hlog, hmatches⟩ := h c hc
  · refine ⟨(.error fault, d), log, by rw [hbind, hrun], hcapacity, hlog, fun n => ⟨?_, ?_⟩⟩
    · intro hle
      rw [hbind, (hmatches n).of_le hle]
    · intro hlt
      obtain ⟨d', hfailed, hfront⟩ := (hmatches n).of_lt hlt
      exact ⟨d', by rw [hbind, hfailed], hfront⟩
  · obtain ⟨result, log', hrun', hcapacity', hlog', hmatches'⟩ := hnext x d hcapacity
    refine ⟨result, log ++ log', by rw [hbind, hrun]; exact hrun', hcapacity', ?_,
      fun n => ⟨?_, ?_⟩⟩
    · rw [hlog', hlog, List.append_assoc]
    · intro hle
      rw [List.length_append] at hle
      rw [hbind, (hmatches n).of_le (by omega)]
      change (next x).run.run (d.limitedTo (n - log.length)) = _
      rw [(hmatches' _).of_le (by omega), List.length_append, Nat.sub_sub]
    · intro hlt
      rw [List.length_append] at hlt
      by_cases hfirst : n < log.length
      · obtain ⟨d', hfailed, hfront⟩ := (hmatches n).of_lt hfirst
        refine ⟨d', by rw [hbind, hfailed], ?_⟩
        rw [hfront, List.take_append_of_le_length (by omega)]
      · obtain ⟨d', hfailed, hfront⟩ := (hmatches' (n - log.length)).of_lt (by omega)
        refine ⟨d', ?_, ?_⟩
        · rw [hbind, (hmatches n).of_le (by omega)]
          exact hfailed
        · have hall : log.take n = log := List.take_of_length_le (by omega)
          rw [hfront, hlog, List.append_assoc, List.take_append, hall]

theorem holdsOfSteps : HoldsOfSteps fun _ work => Interruptible work where
  result := result
  bind := bind
  execute := execute
  openSession := openSession

/-- Work that is followed by closing the connection compares as it does without. -/
theorem closing (h : Interruptible work) : Interruptible (closing work) := by
  have hclosing (c : Connection) : (Work.closing work).run.run c =
      ((work.run.run c).1, { (work.run.run c).2 with closed := (work.run.run c).2.closed + 1 }) :=
    rfl
  intro c hc
  obtain ⟨result, log, hrun, hcapacity, hlog, hmatches⟩ := h c hc
  refine ⟨_, log, hclosing c, ?_, ?_, fun n => ⟨fun hle => ?_, fun hlt => ?_⟩⟩
  · rw [hrun]; exact hcapacity
  · rw [hrun]; exact hlog
  · rw [hclosing, (hmatches n).of_le hle, hrun]
    rfl
  · obtain ⟨d, hfailed, hfront⟩ := (hmatches n).of_lt hlt
    rw [hclosing, hfailed]
    exact ⟨_, rfl, hfront⟩

end Interruptible

end Work

open Work (KeepsOpen Interruptible)

namespace Store

theorem interruptible_carryOut (s : Store) (orders : List Order) :
    Interruptible (s.carryOut orders) :=
  Interruptible.holdsOfSteps.carryOut s orders

theorem keepsOpen_carryOut (s : Store) (orders : List Order) : KeepsOpen (s.carryOut orders) :=
  KeepsOpen.holdsOfSteps.carryOut s orders

end Store

theorem interruptible_saveAnalysis (settings : ConnectionSettings) (env : Environment)
    (a : Analysis) (schema : List Order) :
    Interruptible (saveAnalysis (some settings) env a schema) := by
  let store : Store := { database := settings.database, schema }
  have hwork : saveAnalysis (some settings) env a schema =
      (Work.connect settings >>= fun _ => Work.closing (store.carryOut (storageOrders a))) := rfl
  rw [hwork]
  exact (Interruptible.connect settings).bind fun _ => (store.interruptible_carryOut _).closing

/-- The connection that an analysis is stored over is made with the settings and closed once,
whether the work on it fails or not. Where the settings are refused nothing else happens. -/
theorem closed_saveAnalysis (settings : ConnectionSettings) (env : Environment) (a : Analysis)
    (schema : List Order) (c : Connection) :
    let run := (saveAnalysis (some settings) env a schema).run.run c
    (c.complaint? settings = none → run.2.opened = c.opened ++ [settings] ∧
      run.2.refused = c.refused ∧ run.2.closed = c.closed + 1) ∧
    ∀ complaint, c.complaint? settings = some complaint →
      run = (.error (.connectionRefused complaint),
        { c with refused := c.refused ++ [settings] }) := by
  intro run
  let store : Store := { database := settings.database, schema }
  have hsplit : run = (Work.connect settings >>= fun _ =>
      Work.closing (store.carryOut (storageOrders a))).run.run c := rfl
  have hattempt : (Work.connect settings).run.run c = c.attempt settings := rfl
  constructor
  · intro hnone
    have hkeeps := store.keepsOpen_carryOut (storageOrders a)
    have hrun : run.2 = ((Work.closing (store.carryOut (storageOrders a))).run.run
        (c.make settings)).2 := by
      rw [hsplit, KeepsOpen.run_bind_eq, hattempt, Connection.attempt, hnone]
    rw [hrun]
    exact ⟨hkeeps.opened _, hkeeps.refused _, congrArg (· + 1) (hkeeps.closed _)⟩
  · intro complaint hcomplaint
    rw [hsplit, ExceptT.run_bind, StateT.run_bind, hattempt, Connection.attempt, hcomplaint]
    rfl

/-- What storing an analysis comes to on a connection that gives out. Over a given store as over a
connection of its own, the statements that run are the front of those that run where nothing gives
out, as far as there is room; the work fails exactly if there is not enough room or if it fails
anyway, and then with the fault that comes first. However it ends, the connection that was made for
it has been closed once, and that of a given store is neither made nor closed. If the settings for a
connection are refused none is made, and nothing runs or is closed. -/
theorem save_interrupted (s : Store) (settings : ConnectionSettings) (env : Environment)
    (schema : List Order) (a : Analysis) (c : Connection) :
    let given := ((s.save a).run.run c).2
    let own := (saveAnalysis (some settings) env a schema).run.run c
    (∀ work ∈ [s.save a, saveAnalysis (some settings) env a schema], ∃ result log,
      (work.run.run c.unlimited).1 = result ∧
      (work.run.run c.unlimited).2.statements = c.statements ++ log ∧
      ∀ n, (work.run.run (c.limitedTo n)).1 =
          (if n < log.length then .error .queryFailed else result) ∧
        (work.run.run (c.limitedTo n)).2.statements = c.statements ++ log.take n ∧
        ((work.run.run (c.limitedTo n)).1 ≠ .ok () ↔ result ≠ .ok () ∨ n < log.length)) ∧
    given.opened = c.opened ∧ given.refused = c.refused ∧ given.closed = c.closed ∧
    (c.complaint? settings = none → own.2.opened = c.opened ++ [settings] ∧
      own.2.refused = c.refused ∧ own.2.closed = c.closed + 1) ∧
    ∀ complaint, c.complaint? settings = some complaint →
      own = (.error (.connectionRefused complaint),
        { c with refused := c.refused ++ [settings] }) := by
  intro given own
  have hkeeps := s.keepsOpen_carryOut (storageOrders a)
  refine ⟨fun work hwork => ?_, hkeeps.opened c, hkeeps.refused c, hkeeps.closed c,
    closed_saveAnalysis settings env a schema c⟩
  have hwork : Interruptible work := by
    simp only [List.mem_cons, List.not_mem_nil, or_false] at hwork
    rcases hwork with rfl | rfl
    · exact s.interruptible_carryOut (storageOrders a)
    · exact interruptible_saveAnalysis settings env a schema
  obtain ⟨result, log, hrun, -, hlog, hmatches⟩ := hwork c.unlimited rfl
  refine ⟨result.1, log, congrArg Prod.fst hrun, ?_, fun n => ?_⟩
  · rw [hrun]
    exact hlog
  · by_cases hroom : n < log.length
    · obtain ⟨d, hfailed, hfront⟩ := (hmatches n).of_lt hroom
      have hcut : work.run.run (c.limitedTo n) = (.error .queryFailed, d) := hfailed
      rw [hcut, if_pos hroom]
      exact ⟨rfl, hfront, iff_of_true nofun (.inr hroom)⟩
    · have hall : log.take n = log := List.take_of_length_le (Nat.le_of_not_lt hroom)
      have hsame : work.run.run (c.limitedTo n) = _ := (hmatches n).of_le (Nat.le_of_not_lt hroom)
      rw [hsame, if_neg hroom, hall]
      exact ⟨rfl, hlog, (or_iff_left hroom).symm⟩

end ExtensionAtlas.Graph
