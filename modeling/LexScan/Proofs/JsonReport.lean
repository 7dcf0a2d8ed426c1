import LexScan.Proofs.JsonPrinting
import LexScan.Proofs.KindCount
import LexScan.Proofs.SymbolStream
import LexScan.Report
import Mathlib.Data.Prod.Basic

/-! A report can be read back from its JSON text. Members of a record are looked up by their names;
those of the symbol table and of the counts are taken in the order in which they stand. Since no
object names a member twice, it makes no difference which one of several a reader would take. -/
namespace LexScan

namespace Json.Value

def field? (name : String) : Value → Option Value
  | .object members => members.lookup name
  | _ => none

def members? : Value → Option (List (String × Value))
  | .object members => some members
  | _ => none

/-- The names of the members in their order. -/
def names? (value : Value) : Option (List String) := value.members?.map (·.map Prod.fst)

def items? : Value → Option (List Value)
  | .array items => some items
  | _ => none

def text? : Value → Option String
  | .string text => some text
  | _ => none

def flag? : Value → Option Bool
  | .bool value => some value
  | _ => none

def count? : Value → Option Nat
  | .number value => if value.den = 1 ∧ 0 ≤ value.num then some value.num.toNat else none
  | _ => none

/-- A value in which no object, however deep, names a member twice. -/
inductive Unrepeated : Value → Prop where
  | null : Unrepeated .null
  | bool (value : Bool) : Unrepeated (.bool value)
  | number (value : Rat) : Unrepeated (.number value)
  | string (text : String) : Unrepeated (.string text)
  | array {items : List Value} (all : ∀ item ∈ items, Unrepeated item) : Unrepeated (.array items)
  | object {members : List (String × Value)} (distinct : (members.map Prod.fst).Nodup)
      (all : ∀ member ∈ members, Unrepeated member.2) : Unrepeated (.object members)

@[simp] theorem field?_object_cons (name other : String) (first : Value)
    (later : List (String × Value)) :
    field? name (.object ((other, first) :: later)) =
      if other = name then some first else field? name (.object later) := by
  by_cases same : other = name
  · simp [field?, same]
  · have unequal : (name == other) = false := by simpa using Ne.symm same
    simp [field?, same, List.lookup_cons, unequal]

@[simp] theorem text?_string (text : String) : text? (.string text) = some text := rfl

@[simp] theorem flag?_bool (value : Bool) : flag? (.bool value) = some value := rfl

@[simp] theorem items?_array (items : List Value) : items? (.array items) = some items := rfl

@[simp] theorem members?_object (members : List (String × Value)) :
    members? (.object members) = some members := rfl

@[simp] theorem names?_object (members : List (String × Value)) :
    names? (.object members) = some (members.map Prod.fst) := rfl

@[simp] theorem count?_number (n : Nat) : count? (.number n) = some n := by
  simp [count?]

end Json.Value

open Json Value

@[simp] theorem mapM_some {α : Type} (list : List α) : list.mapM (fun a => some a) = some list :=
  (List.mapM_pure (m := Option) (f := id)).trans (by simp)

/-! ### Reading a report -/

def Token.ofValue? (value : Value) : Option Token := do
  let kind ← Kind.ofLabel? (← text? (← value.field? "kind"))
  let lexeme ← text? (← value.field? "lexeme")
  let line ← count? (← value.field? "line")
  let column ← count? (← value.field? "column")
  return ⟨kind, lexeme, ⟨line, column⟩⟩

def Diagnostic.ofValue? (value : Value) : Option Diagnostic := do
  let fault ← Fault.ofName? (← text? (← value.field? "kind"))
  let line ← count? (← value.field? "line")
  let column ← count? (← value.field? "column")
  let lexeme ← text? (← value.field? "lexeme")
  let reason ← text? (← value.field? "reason")
  return ⟨fault, ⟨line, column⟩, lexeme, reason⟩

def Symbol.ofValue? (value : Value) : Option Symbol := do
  let kind ← text? (← value.field? "kind")
  let firstLine ← count? (← value.field? "first_line")
  let frequency ← count? (← value.field? "frequency")
  return ⟨kind, firstLine, frequency⟩

def SymbolTable.ofValue? (value : Value) : Option SymbolTable := do
  let entries ← (← value.members?).mapM fun member =>
    (Symbol.ofValue? member.2).map (member.1, ·)
  return ⟨entries⟩

def Stats.ofValue? (value : Value) : Option Stats := do
  let total ← count? (← value.field? "total_tokens")
  let lines ← count? (← value.field? "lines")
  let counts ← (← members? (← value.field? "counts")).mapM fun member => do
    return (← Kind.ofLabel? member.1, ← member.2.count?)
  return ⟨total, lines, counts⟩

def Report.ofValue? (value : Value) : Option Report := do
  let tokens ← (← items? (← value.field? "tokens")).mapM Token.ofValue?
  let symbols ← SymbolTable.ofValue? (← value.field? "symbols")
  let diagnostics ← (← items? (← value.field? "diagnostics")).mapM Diagnostic.ofValue?
  let stats ← Stats.ofValue? (← value.field? "stats")
  let complete ← flag? (← value.field? "complete")
  return ⟨tokens, symbols, diagnostics, stats, complete⟩

theorem Token.ofValue?_toJson (token : Token) : ofValue? token.toJson.value = some token := by
  simp [ofValue?, toJson, value, memberValues, Kind.ofLabel?_label]

theorem Diagnostic.ofValue?_toJson (d : Diagnostic) : ofValue? d.toJson.value = some d := by
  simp [ofValue?, toJson, value, memberValues, Fault.ofName?_name]

theorem Symbol.ofValue?_toJson (symbol : Symbol) : ofValue? symbol.toJson.value = some symbol := by
  simp [ofValue?, toJson, value, memberValues]

theorem SymbolTable.ofValue?_toJson (table : SymbolTable) :
    ofValue? table.toJson.value = some table := by
  simp [ofValue?, toJson, value, memberValues_eq, Function.comp_def, Symbol.ofValue?_toJson]

theorem Stats.ofValue?_toJson (stats : Stats) : ofValue? stats.toJson.value = some stats := by
  simp [ofValue?, toJson, value, memberValues, memberValues_eq, Function.comp_def,
    Kind.ofLabel?_label]

theorem Report.ofValue?_toJson (report : Report) : ofValue? report.toJson.value = some report := by
  simp [ofValue?, toJson, value, memberValues, values_eq, Function.comp_def, Token.ofValue?_toJson,
    Diagnostic.ofValue?_toJson, SymbolTable.ofValue?_toJson, Stats.ofValue?_toJson]

/-! ### Names that are not repeated -/

attribute [simp] Unrepeated.bool Unrepeated.number Unrepeated.string

theorem unrepeated_array {items : List Json} (all : ∀ item ∈ items, item.value.Unrepeated) :
    (Json.array items).value.Unrepeated := by
  rw [value, values_eq]
  exact .array (by simpa using all)

theorem unrepeated_object {members : List (String × Json)}
    (distinct : (members.map Prod.fst).Nodup)
    (all : ∀ member ∈ members, member.2.value.Unrepeated) :
    (Json.object members).value.Unrepeated := by
  rw [value, memberValues_eq]
  refine .object ?_ ?_
  · simpa [Function.comp_def] using distinct
  · intro member found
    obtain ⟨given, listed, rfl⟩ := List.mem_map.1 found
    exact all given listed

theorem Token.unrepeated_toJson (token : Token) : token.toJson.value.Unrepeated :=
  unrepeated_object (by simp) (by simp [value])

theorem Diagnostic.unrepeated_toJson (d : Diagnostic) : d.toJson.value.Unrepeated :=
  unrepeated_object (by simp) (by simp [value])

theorem Symbol.unrepeated_toJson (symbol : Symbol) : symbol.toJson.value.Unrepeated :=
  unrepeated_object (by simp) (by simp [value])

theorem SymbolTable.unrepeated_toJson {table : SymbolTable} (distinct : table.names.Nodup) :
    table.toJson.value.Unrepeated := by
  refine unrepeated_object ?_ ?_
  · simpa [names, Function.comp_def] using distinct
  · intro member found
    obtain ⟨entry, _, rfl⟩ := List.mem_map.1 found
    exact entry.2.unrepeated_toJson

namespace Stats

theorem labels_collect (tokens : List Token) (lines : Nat) :
    (collect tokens lines).counts.map (·.1.label) =
      (Kind.all.filter (· ∈ Token.countedKinds tokens)).map Kind.label := by
  simp [collect_eq, Kind.tally, Kind.tallyAlong, Function.comp_def]

theorem nodup_labels_collect (tokens : List Token) (lines : Nat) :
    ((collect tokens lines).counts.map (·.1.label)).Nodup := by
  have distinct : (Kind.all.map Kind.label).Nodup := by decide +kernel
  rw [labels_collect]
  exact distinct.sublist (List.filter_sublist.map _)

theorem unrepeated_toJson {stats : Stats} (distinct : (stats.counts.map (·.1.label)).Nodup) :
    stats.toJson.value.Unrepeated := by
  have counts : (Json.object (stats.counts.map fun entry =>
      (entry.1.label, Json.number entry.2))).value.Unrepeated := by
    refine unrepeated_object (by simpa [Function.comp_def] using distinct) ?_
    intro member found
    obtain ⟨entry, _, rfl⟩ := List.mem_map.1 found
    simp [value]
  refine unrepeated_object (by simp) ?_
  intro member found
  simp only [List.mem_cons, List.not_mem_nil, or_false] at found
  rcases found with rfl | rfl | rfl
  · simp [value]
  · simp [value]
  · exact counts

end Stats

namespace Report

theorem unrepeated_toJson {report : Report} (symbols : report.symbols.names.Nodup)
    (counts : (report.stats.counts.map (·.1.label)).Nodup) :
    report.toJson.value.Unrepeated := by
  refine unrepeated_object (by simp) ?_
  intro member found
  simp only [List.mem_cons, List.not_mem_nil, or_false] at found
  rcases found with rfl | rfl | rfl | rfl | rfl
  · exact unrepeated_array (by simpa using fun token _ => Token.unrepeated_toJson token)
  · exact SymbolTable.unrepeated_toJson symbols
  · exact unrepeated_array (by simpa using fun d _ => Diagnostic.unrepeated_toJson d)
  · exact Stats.unrepeated_toJson counts
  · simp [value]

/-! ### The text of a report -/

/-- A value that a report can be read from. Its symbols stand in the order of their first sighting,
and its counts in the order of kinds. -/
structure HeldBy (report : Report) (value : Value) : Prop where
  readBack : ofValue? value = some report
  unrepeated : value.Unrepeated
  symbols : (value.field? "symbols").bind names? =
    some ((Token.sightings report.tokens).map Sighting.name).eraseDups
  counts : ((value.field? "stats").bind (field? "counts")).bind names? =
    some ((Kind.all.filter (· ∈ Token.countedKinds report.tokens)).map Kind.label)

theorem tallies_ofSource (source : String) (limit : Nat) :
    SymbolTable.Tallies (ofSource source limit).symbols
      (Token.sightings (ofSource source limit).tokens) := by
  have tallied := Scanner.tallies_drain source limit
  rwa [← Scanner.filter_drain, Token.sightings_filter] at tallied

theorem heldBy_value (source : String) (limit : Nat) :
    HeldBy (ofSource source limit) (ofSource source limit).toJson.value := by
  have tallied := tallies_ofSource source limit
  refine {
    readBack := ofValue?_toJson _
    unrepeated := unrepeated_toJson tallied.nodup_names (Stats.nodup_labels_collect _ _)
    symbols := ?_
    counts := ?_ }
  · rw [← tallied.names]
    simp [toJson, SymbolTable.toJson, SymbolTable.names, value, memberValues, memberValues_eq,
      Function.comp_def]
  · have labels : (ofSource source limit).stats.counts.map (·.1.label) = _ :=
      Stats.labels_collect (ofSource source limit).tokens _
    rw [← labels]
    simp [toJson, Stats.toJson, value, memberValues, memberValues_eq, Function.comp_def]

theorem itemText_renderJson (report : Report) (value : Value) :
    ItemText value report.renderJson.toList ↔ value = report.toJson.value := by
  rw [renderJson, indented, String.toList_ofList, itemText_iff]

/-- The JSON text of a report stands for one value, and the whole report can be read back from that
value. So there is no other report with the same text. -/
theorem json_holds_report (source : String) (limit : Nat) :
    (∃ held, (∀ value, ItemText value (ofSource source limit).renderJson.toList ↔ value = held) ∧
      HeldBy (ofSource source limit) held) ∧
    ∀ other : Report, other.renderJson = (ofSource source limit).renderJson →
      other = ofSource source limit := by
  refine ⟨⟨_, itemText_renderJson _, heldBy_value source limit⟩, ?_⟩
  intro other same
  have read := (itemText_renderJson other _).2 rfl
  rw [same, itemText_renderJson] at read
  have back := ofValue?_toJson other
  rw [read, ofValue?_toJson] at back
  exact (Option.some.inj back).symm

end Report
end LexScan
