import InventorySearch.Catalog.Extensions
import InventorySearch.Catalog.Form
import InventorySearch.Service.State
import InventorySearch.Text.Quoted

/-!
Showing the catalog, and replacing its extensions. A new catalog takes over only if the defaults and
the query of every stored group can be read under it and every stored value still fits; otherwise
nothing changes.
-/
namespace InventorySearch.Service

def catalogEvent (level : LogLevel) (message : String) (fields : List (String × Json)) : Report :=
  .event ⟨"assetdesk_api::routes::catalog", level, message, fields⟩

/-- Extensions must not have blank names. -/
def checkNames (e : Extensions) : Except ApiError Unit :=
  if e.declaredFields.any fun field => Text.isBlankText field.name then
    .error (.missingField "user_defined_fields[].name")
  else if e.registryValues.any Text.isBlankText then
    .error (.validationFailed "Registry value names must not be empty")
  else .ok ()

/-- Tells whether the query of a group can be read under a catalog. -/
def queryReadable (catalog : Catalog) (defaults : Defaults) (g : Group) : Bool :=
  match g.query with
  | none => true
  | some query => (savedRequest catalog defaults query).toBool

/-- The groups whose queries cannot be read under a catalog. -/
def invalidatedGroups (catalog : Catalog) (defaults : Defaults) (groups : GroupStore) :
    List String :=
  (groups.toList.filter fun g => !queryReadable catalog defaults g).map (·.name)

/-- The error of a catalog under which queries of groups cannot be read. -/
def invalidatedError (names : List String) : ApiError :=
  (ApiError.validationFailed <|
    "Rebuilt catalog would invalidate the membership query of: " ++
      String.intercalate ", " names).withDetails (.ofMembers [("groups", .ofTexts names)])

namespace State

def showCatalog (s : State) : Outcome := s.answer (.ofJson s.catalog.toJson) []

/-- Lets a catalog take over for which the engine has been prepared. -/
def publish (s : State) (e : Extensions) (catalog : Catalog) (engine : Engine) : Outcome :=
  ⟨.ofJson catalog.toJson, { s with catalog := catalog, engine := engine },
    [.catalogSize catalog.size,
      catalogEvent .info "Filter catalog rebuilt"
        [("filters", .ofNat catalog.size), ("user_defined", .ofNat e.declaredFields.length),
          ("registry_values", .ofNat e.registryValues.length)]]⟩

/-- Replaces the extensions of the catalog. -/
def replaceExtensions (s : State) (e : Extensions) : Outcome :=
  match checkNames e with
  | .error error => s.refuse error
  | .ok () =>
    let catalog := Catalog.extended e
    match s.defaults.check catalog with
    | .error error => s.refuse (.ofConfig error)
    | .ok () =>
      match invalidatedGroups catalog s.defaults s.groups with
      | [] =>
        match s.engine.retype catalog with
        | .error cause => s.fail cause
        | .ok engine => s.publish e catalog engine
      | names =>
        s.answer (.ofError (invalidatedError names))
          [catalogEvent .warn "Catalog rebuild rejected by group queries"
            [("groups", .string (Text.quotedList names))]]

end State

end InventorySearch.Service
