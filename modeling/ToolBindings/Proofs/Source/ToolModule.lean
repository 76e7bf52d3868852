import ToolBindings.Proofs.Name.Identifier
import ToolBindings.Proofs.Schema.Compiled
import ToolBindings.Proofs.Text.Scan
import ToolBindings.Source.ToolModule

/-!
# Modules of tools read back

The module that is written for a tool defines one class, with the texts it was written for and an
argument schema that is the projection of the tool's input schema, whatever these texts and the
schema hold.
-/

namespace ToolBindings

/-- An identifier goes on as a name of the source throughout. -/
theorem Name.IsIdentifier.isNameChar {name : String} (h : IsIdentifier name) :
    ∀ c ∈ name.toList, Literal.isNameChar c = true := by
  intro c hc
  rw [Literal.isNameChar, h.isAlphanum c hc, Bool.true_or]

namespace ToolModule

/-- A line that gives a class a text gives it this text. -/
theorem assignment?_assignment (name value : String) (rest : List Char) :
    assignment? name (assignment name value ++ rest) = some (value, rest) := by
  have htext : assignment name value ++ rest
      = assigned name ++ (Literal.print (.text value) ++ '\n' :: rest) := by
    simp [assignment, Literal.print]
  have hline := Literal.ends_delimiter (d := '\n') (by decide) rest
  have hread := Literal.read_print (v := .text value) rfl rfl hline
  rw [htext, assignment?, Text.dropText?_append]
  simp only [hread]

/-- No name goes on behind the class name. -/
theorem stopsAt_afterName (rest : List Char) :
    Text.StopsAt Literal.isNameChar (afterName ++ rest) := by
  have hfirst : afterName = '(' :: "McpTool):\n".toList := by decide
  rw [hfirst, List.cons_append, Text.stopsAt_cons]
  rfl

/-- The text of a module reads as what it was written for. -/
theorem read?_write {className : String}
    (hname : ∀ c ∈ className.toList, Literal.isNameChar c = true)
    (server tool description schemaText : String) :
    read? (write className server tool description schemaText)
      = some ⟨className, server, tool, description, schemaOf (schemaText.toList ++ ['\n'])⟩ := by
  have htext : (write className server tool description schemaText).toList
      = opening ++ (className.toList ++ (afterName ++ (assignment "server_slug" server ++
          (assignment "raw_tool_name" tool ++ (assignment "description" description ++
            (schemaHeading ++ (schemaText.toList ++ ['\n']))))))) := by
    rw [write, String.toList_ofList]
    simp only [List.append_assoc]
  rw [read?, htext, Text.dropText?_append]
  simp only [Option.bind_eq_bind, Option.bind_some]
  rw [Text.takeWhile_run hname (stopsAt_afterName _),
    Text.dropWhile_run hname (stopsAt_afterName _), Text.dropText?_append]
  simp only [Option.bind_some, assignment?_assignment, Text.dropText?_append,
    String.ofList_toList]

/-- The property map at the end of a module reads as the compiled properties, or ends at the first
bare name among the values they set. -/
theorem schemaOf_propertyMapText_eq {schema : Schema.SchemaObject}
    (hkeys : Data.distinctKeys (.map schema) = true) (indent : Int) :
    schemaOf ((Schema.propertyMapText schema indent).toList ++ ['\n'])
      = Literal.unlessUnbound
          ((Schema.Expression.valuesOfProperties (Schema.compileProperties schema)).findSome?
            Literal.unbound?) (Schema.compileProperties schema) := by
  have hreadable := Schema.readableProperties_compileProperties (Data.distinctKeys_map.1 hkeys).2
    fun inner _ => Schema.readable_compile inner
  rw [schemaOf, Schema.propertyMapText, Schema.readMap_writeMap_eq indent hreadable]
  cases (Schema.Expression.valuesOfProperties _).findSome? Literal.unbound? <;> rfl

/-- The property map without infinities reads as the compiled properties. -/
theorem schemaOf_propertyMapText {schema : Schema.SchemaObject}
    (hkeys : Data.distinctKeys (.map schema) = true)
    (hfinite : ∀ v ∈ Schema.Expression.valuesOfProperties (Schema.compileProperties schema),
      v.allFinite = true) (indent : Int) :
    schemaOf ((Schema.propertyMapText schema indent).toList ++ ['\n'])
      = .ok (Schema.compileProperties schema) := by
  rw [schemaOf_propertyMapText_eq hkeys, Literal.findSome?_unbound?_eq_none.2 hfinite,
    Literal.unlessUnbound]

/-- The module of a tool defines, under a name that is an identifier, exactly the given texts and
the projection of the input schema. -/
theorem inputSchema_of_write {className : String} (hname : Name.Allocated className)
    (server tool description : String) {schema : Schema.SchemaObject}
    (hkeys : Data.distinctKeys (.map schema) = true)
    (hfinite : ∀ v ∈ Schema.Expression.valuesOfProperties (Schema.compileProperties schema),
      v.allFinite = true) (indent : Int) :
    Name.IsIdentifier className ∧
      ∃ m, read? (write className server tool description (Schema.propertyMapText schema indent))
          = some m ∧
        m.className = className ∧ m.server = server ∧ m.tool = tool ∧
        m.description = description ∧
        m.inputSchema = .ok (Schema.projectArguments schema) := by
  have hidentifier := hname.isIdentifier
  have hchars : ∀ c ∈ className.toList, Literal.isNameChar c = true := by
    intro c hc
    rw [Literal.isNameChar, hidentifier.isAlphanum c hc, Bool.true_or]
  have hread := read?_write hchars server tool description (Schema.propertyMapText schema indent)
  have hschema := schemaOf_propertyMapText hkeys hfinite indent
  refine ⟨hidentifier, _, hread, rfl, rfl, rfl, rfl, ?_⟩
  rw [inputSchema, hschema]
  exact congrArg Except.ok (Schema.argumentSchema_compileProperties schema)

/-- An integer with a bound, a choice that holds a list, and a keyword of texts. -/
def starsSchema : Schema.SchemaObject := [
  ("type", .text "integer"), ("minimum", .int (-3)), ("minLength", .int 1),
  ("enum", .list [.list [.int 1, .null], .text "\n\""])]

/-- One property, which is required beside a name that is no property. -/
def ratingSchema : Schema.SchemaObject := [
  ("type", .text "object"),
  ("properties", .map [("it's", .map starsSchema)]),
  ("required", .list [.text "it's", .text "other"])]

theorem inputSchema_of_write_rating :
    ∃ m, read? (write "CrmRatingTool" "crm" "rating" "\"Rate\" it\\\n"
        (Schema.propertyMapText ratingSchema 8)) = some m ∧
      m.inputSchema = .ok (Schema.projectArguments ratingSchema) := by
  have hname : Name.Allocated "CrmRatingTool" :=
    .tool .empty (Name.Claimed.empty.claim "CrmRatingTool") "crm" "rating" false rfl
  have hkeys : Data.distinctKeys (.map ratingSchema) = true := by decide
  have hstars : Schema.compile starsSchema = .mk .integer []
      [.set .enum (.list [.list [.int 1, .null], .text "\n\""]), .set .minimum (.int (-3))] := by
    rw [Schema.compile]
    rfl
  have hfinite : ∀ v ∈ Schema.Expression.valuesOfProperties
      (Schema.compileProperties ratingSchema), v.allFinite = true := by
    rw [Schema.compileProperties_eq]
    show ∀ v ∈ Schema.Expression.valuesOfProperties (Schema.compileFields ["it's", "other"] _), _
    rw [Schema.compileFields, hstars, Schema.compileFields]
    decide
  obtain ⟨-, m, hread, -, -, -, -, hschema⟩ :=
    inputSchema_of_write hname "crm" "rating" "\"Rate\" it\\\n" hkeys hfinite 8
  exact ⟨m, hread, hschema⟩

end ToolModule
end ToolBindings
