import DexQuery.Json.Basic

/-!
# Operations

The questions that can be asked about a loaded artifact. Each has a name, a category, a route
below the address of a session and a list of inputs; everything that lists, checks or documents
operations reads it from here.
-/

namespace DexQuery

/-- The groups of related operations. -/
inductive Category where
  | types
  | members
  | decompile
  | xrefs
  | search
  | resources
  | aliases
  | diagnostics
deriving DecidableEq

namespace Category

/-- All categories, in the order in which they are listed. -/
def all : List Category :=
  [types, members, decompile, xrefs, search, resources, aliases, diagnostics]

/-- The word for a category. -/
def word : Category → String
  | types => "types"
  | members => "members"
  | decompile => "decompile"
  | xrefs => "xrefs"
  | search => "search"
  | resources => "resources"
  | aliases => "aliases"
  | diagnostics => "diagnostics"

/-- The title of a category. -/
def title : Category → String
  | types => "Types"
  | members => "Members"
  | decompile => "Decompile"
  | xrefs => "Xrefs"
  | search => "Search"
  | resources => "Resources"
  | aliases => "Aliases"
  | diagnostics => "Diagnostics"

/-- What the operations of a category are for. -/
def description : Category → String
  | types => "Enumerate types and packages, hierarchy and dependencies"
  | members => "Methods, fields and annotations of a type"
  | decompile => "Decompiled source and disassembly"
  | xrefs => "Cross-references, overrides and unresolved calls"
  | search => "Search string literals across the artifact"
  | resources => "Manifest and packaged resources"
  | aliases => "Rename overlay (display names only)"
  | diagnostics => "Session info and engine error counts"

end Category

/-- The kinds of values that an input can have. -/
inductive InputKind where
  | string
  | boolean
  | integer
deriving DecidableEq

/-- The word for a kind of values. -/
def InputKind.word : InputKind → String
  | .string => "string"
  | .boolean => "boolean"
  | .integer => "integer"

/-- Whether a value is of the kind. An integer may be negative. -/
def InputKind.accepts : InputKind → Json → Bool
  | .string, .string _ => true
  | .boolean, .bool _ => true
  | .integer, .number (.int _) => true
  | _, _ => false

/-- An input of an operation. An input that is not required may have a default. -/
structure Input where
  name : String
  kind : InputKind
  description : String
  required : Bool
  default : Option Json

/-- What is declared about an operation. The route lies below the address of a session. -/
structure Declaration where
  name : String
  category : Category
  route : String
  description : String
  inputs : List Input
  isWrite : Bool

/-- The operations on a loaded artifact. -/
inductive Operation where
  | listTypes
  | listPackages
  | getHierarchy
  | getDependencies
  | listMethods
  | listMethodsDetail
  | listFields
  | getAnnotations
  | decompileClass
  | decompileMethod
  | xrefsTo
  | xrefsFrom
  | fieldXrefs
  | classXrefs
  | overrides
  | unresolvedRefs
  | searchStrings
  | getManifest
  | listResources
  | getResourceContent
  | rename
  | removeRename
  | listRenames
  | errorReport
  | sessionInfo
deriving DecidableEq

namespace Operation

/-- All operations, in the order in which they are listed. -/
def all : List Operation :=
  [listTypes, listPackages, getHierarchy, getDependencies, listMethods, listMethodsDetail,
    listFields, getAnnotations, decompileClass, decompileMethod, xrefsTo, xrefsFrom, fieldXrefs,
    classXrefs, overrides, unresolvedRefs, searchStrings, getManifest, listResources,
    getResourceContent, rename, removeRename, listRenames, errorReport, sessionInfo]

/-- A text that must be given. -/
def requiredText (name description : String) : Input := ⟨name, .string, description, true, none⟩

/-- A text that may be given. -/
def optionalText (name description : String) : Input := ⟨name, .string, description, false, none⟩

/-- The descriptor of a type. -/
def typeInput : Input := requiredText "type_id" "Type descriptor, e.g. Lcom/example/Foo;"

/-- The descriptor of a method. -/
def methodInput : Input :=
  requiredText "method_id" "Method descriptor, e.g. Lcom/example/Foo;->bar(ILjava/lang/String;)V"

/-- The descriptor of a field. -/
def fieldInput : Input :=
  requiredText "field_id" "Field descriptor, e.g. Lcom/example/Foo;->count:I"

/-- The descriptor of a type, a method or a field. -/
def entityInput : Input := requiredText "id" "Type, method or field descriptor"

/-- The inputs of a search for strings. -/
def searchInputs : List Input :=
  [requiredText "query" "Substring to find, or a regex when regex=true",
    ⟨"regex", .boolean, "Treat query as a regular expression", false, some (.bool false)⟩,
    ⟨"limit", .integer, "Maximum number of distinct matching strings", false, some (.nat 200)⟩]

/-- What is declared about each operation. -/
def declaration : Operation → Declaration
  | listTypes => ⟨"list_types", .types, "types",
    "List every type in the artifact with kind, package and access flags. " ++
      "Entries carry an `alias` when one was set with rename.", [], false⟩
  | listPackages => ⟨"list_packages", .types, "packages",
    "List packages with direct class counts, sub-packages and class ids.", [], false⟩
  | getHierarchy => ⟨"get_hierarchy", .types, "hierarchy",
    "Super class, interfaces, inner classes and generic signature of a type.", [typeInput], false⟩
  | getDependencies => ⟨"get_dependencies", .types, "dependencies",
    "Types referenced by a type.", [typeInput], false⟩
  | listMethods => ⟨"list_methods", .members, "methods",
    "List the methods declared by a type (id, name, access flags).", [typeInput], false⟩
  | listMethodsDetail => ⟨"list_methods_detail", .members, "methods/detail",
    "List the methods declared by a type with arguments, return type, " ++
      "throws and generic signature.", [typeInput], false⟩
  | listFields => ⟨"list_fields", .members, "fields",
    "List the fields declared by a type.", [typeInput], false⟩
  | getAnnotations => ⟨"get_annotations", .members, "annotations",
    "Annotations on a type, method or field. Pass exactly one of " ++
      "type_id, method_id or field_id.",
    [optionalText "type_id" "Type descriptor", optionalText "method_id" "Method descriptor",
      optionalText "field_id" "Field descriptor"], false⟩
  | decompileClass => ⟨"decompile_class", .decompile, "decompile/class",
    "Decompiled source of a whole type.", [typeInput], false⟩
  | decompileMethod => ⟨"decompile_method", .decompile, "decompile",
    "Decompiled source and disassembly of one method. Falls back to the " ++
      "whole unit's source with a warning when the method cannot be isolated.",
    [methodInput], false⟩
  | xrefsTo => ⟨"xrefs_to", .xrefs, "xrefs/to", "Callers of a method.", [methodInput], false⟩
  | xrefsFrom => ⟨"xrefs_from", .xrefs, "xrefs/from",
    "Methods, fields and types used by a method.", [methodInput], false⟩
  | fieldXrefs => ⟨"field_xrefs", .xrefs, "xrefs/field",
    "Methods that read or write a field.", [fieldInput], false⟩
  | classXrefs => ⟨"class_xrefs", .xrefs, "xrefs/class",
    "Code that references a type.", [typeInput], false⟩
  | overrides => ⟨"overrides", .xrefs, "overrides",
    "Methods that a method overrides or implements, nearest first.", [methodInput], false⟩
  | unresolvedRefs => ⟨"unresolved_refs", .xrefs, "unresolved",
    "Calls from a method whose targets are outside the artifact.", [methodInput], false⟩
  | searchStrings => ⟨"search_strings", .search, "strings",
    "Search string literals in every type's decompiled source. " ++
      "Decompiles the whole artifact on first use; slow on large inputs.", searchInputs, false⟩
  | getManifest => ⟨"get_manifest", .resources, "manifest",
    "Manifest text, for package-style inputs.", [], false⟩
  | listResources => ⟨"list_resources", .resources, "resources",
    "List packaged resource entries.", [], false⟩
  | getResourceContent => ⟨"get_resource_content", .resources, "resources/content",
    "Content of one resource entry. Binary entries carry no text.",
    [requiredText "name" "Resource entry name as listed by list_resources"], false⟩
  | rename => ⟨"rename", .aliases, "rename",
    "Attach a display alias to a type, method or field. Decompiled text is never rewritten.",
    [entityInput, requiredText "alias" "Display name"], true⟩
  | removeRename => ⟨"remove_rename", .aliases, "rename/remove",
    "Remove the alias attached to a descriptor.", [entityInput], true⟩
  | listRenames => ⟨"list_renames", .aliases, "renames",
    "List every alias in the session, ordered by descriptor.", [], false⟩
  | errorReport => ⟨"error_report", .diagnostics, "errors",
    "Decompiler error and warning counts for the artifact.", [], false⟩
  | sessionInfo => ⟨"session_info", .diagnostics, "info",
    "Session metadata: artifact hash, cache key, provenance, timestamps.", [], false⟩

/-- The name of an operation. -/
def name (op : Operation) : String := op.declaration.name

/-- The route of an operation below the address of a session. -/
def route (op : Operation) : String := op.declaration.route

/-- The inputs of an operation. -/
def inputs (op : Operation) : List Input := op.declaration.inputs

/-- The operation with a name. -/
def ofName? (name : String) : Option Operation := all.find? fun op => op.name == name

/-- The operation with a route. -/
def ofRoute? (route : String) : Option Operation := all.find? fun op => op.route == route

/-- The input of an operation with a name. -/
def input? (op : Operation) (name : String) : Option Input :=
  op.inputs.find? fun i => i.name == name

/-- The names of all operations. -/
def names : List String := all.map name

/-- The names of all operations in one text. -/
def known : String := ", ".intercalate names

/-- The operations of a category. -/
def ofCategory (c : Category) : List Operation := all.filter fun op => op.declaration.category = c

end Operation
end DexQuery
