import ExtensionAtlas.Proofs.Graph.Elements
import ExtensionAtlas.Proofs.Source.ParameterPieces

/-! The parameters of a procedure in the graph. The node of a procedure shows each parameter as a
text of its own. Joined as a parameter list, these texts are read as the parameters again. -/

namespace ExtensionAtlas.Graph

theorem writes_parameterText (p : Parameter) : p.Writes (parameterText p).toList := by
  cases hvar : p.isVar with
  | false =>
      have htext : (parameterText p).toList = p.typed := by
        simp [parameterText, Parameter.typed, hvar]
      rw [htext]
      exact .plain hvar
  | true =>
      have htext : (parameterText p).toList = "var".toList ++ ' ' :: p.typed := by
        simp [parameterText, Parameter.typed, hvar]
      rw [htext]
      exact .marked hvar rfl

/-- The node of a procedure always shows its parameters. -/
theorem lookup_parameters (e : Extension) (o : Object) (p : Procedure) :
    (Element.procedure e o p).properties.lookup "parameters" =
      some (.ofTexts (p.parameters.map parameterText)) := by
  simp [Element.properties, Element.entries, procedureProperties, lookup_presentProperties_cons,
    Json.ofTexts]

/-- Joined as a list, the texts that the node of a procedure shows are read as its parameters, if
these can be kept apart; and any two lists with a semicolon between them are read one after the
other. -/
theorem scan_parameterTexts :
    (∀ (e : Extension) (o : Object) (p : Procedure), (∀ q ∈ p.parameters, q.Separable) →
      ∃ texts, (Element.procedure e o p).properties.lookup "parameters" = some (.ofTexts texts) ∧
        Parameter.scan ("; ".intercalate texts).toList = p.parameters) ∧
    ∀ front back, Parameter.scan (front ++ ';' :: back) =
      Parameter.scan front ++ Parameter.scan back := by
  refine ⟨fun e o p h => ⟨_, lookup_parameters e o p, ?_⟩, Parameter.scan_append⟩
  have hlist : ("; ".intercalate (p.parameters.map parameterText)).toList =
      [';', ' '].intercalate (p.parameters.map fun q => (parameterText q).toList) := by
    rw [String.toList_intercalate, List.map_map]
    rfl
  have hwrites : List.Forall₂ Parameter.Writes p.parameters
      (p.parameters.map fun q => (parameterText q).toList) := by
    rw [List.forall₂_map_right_iff, List.forall₂_same]
    exact fun q _ => writes_parameterText q
  rw [hlist, Parameter.scan_intercalate hwrites h]

/-- A procedure whose parameters have no name, the name `var`, and quotes and colons inside. -/
def mixedProcedure : Procedure where
  name := "Run"
  parameters := [
    ⟨"", "Integer", false⟩, ⟨"var", "Code[20]", false⟩, ⟨"VAR x", "Record \x22Item\x22", true⟩,
    ⟨"a\x22b", "Dictionary of [Text: Text]", false⟩]

theorem scan_parameterTexts_mixed :
    let e : Extension := { name := "Stock", path := "Stock.al" }
    let o : Object := { kind := .codeunit, id := 1, name := "Stock" }
    (∀ q ∈ mixedProcedure.parameters, q.Separable) ∧ ∃ texts,
      (Element.procedure e o mixedProcedure).properties.lookup "parameters" =
        some (.ofTexts texts) ∧
      Parameter.scan ("; ".intercalate texts).toList = mixedProcedure.parameters := by
  intro e o
  have hseparable : ∀ q ∈ mixedProcedure.parameters, q.Separable := by decide +kernel
  exact ⟨hseparable, scan_parameterTexts.1 e o mixedProcedure hseparable⟩

end ExtensionAtlas.Graph
