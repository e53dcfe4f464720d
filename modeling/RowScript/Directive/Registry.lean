import RowScript.Directive.BuiltIn

/-!
The directives that scripts can call, by name. An entry holds the directive as it
is before its configuration, and its usage, which is asked for once; a directive
that cannot say its usage, or says it under another name, is not taken in.
-/

namespace RowScript

structure Registration (δ : Type) where
  info : Info
  /-- The directive that every new instance starts as. -/
  fresh : δ
  usage : Usage

structure Registry (δ : Type) where
  entries : Dictionary (Registration δ)

namespace Registry

variable {δ : Type}

def empty : Registry δ := ⟨.empty⟩

instance : Inhabited (Registry δ) := ⟨empty⟩

/-- Take in another directive, which replaces one of the same name. Beside the registry stands why
the directive is not taken in, if it is not. -/
def register [Directive δ] (r : Registry δ) (info : Info) (fresh : δ) :
    Except ScriptError Unit × Registry δ :=
  match Directive.define fresh with
  | .error e => (.error e, r)
  | .ok usage =>
    if usage.directive = info.name then
      (.ok (), ⟨r.entries.insert info.name ⟨info, fresh, usage⟩⟩)
    else
      (.error (.invalidDefinition info.name
        ("usage definition names '" ++ usage.directive ++ "'")), r)

/-- The registry of a catalog, without the directives that it does not take. -/
def ofCatalog [Directive δ] (catalog : List (Info × δ)) : Registry δ :=
  catalog.foldl (fun r (info, fresh) => (r.register info fresh).2) empty

/-- The registry of the built-in directives. -/
def standard : Registry BuiltIn := ofCatalog BuiltIn.catalog

def has (r : Registry δ) (name : String) : Bool := r.entries.contains name

/-- The names in ascending order. -/
def names (r : Registry δ) : List String := r.entries.keys

def info? (r : Registry δ) (name : String) : Option Info :=
  (r.entries.find? name).map (·.info)

def usage? (r : Registry δ) (name : String) : Option Usage :=
  (r.entries.find? name).map (·.usage)

/-- A new instance of a directive. -/
def create? (r : Registry δ) (name : String) : Option δ :=
  (r.entries.find? name).map (·.fresh)

end Registry

end RowScript
