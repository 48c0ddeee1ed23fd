import SubscriptionDesk.Envelope
import SubscriptionDesk.Name

namespace SubscriptionDesk

/-- A kind of metadata that is looked up and kept on its own. -/
inductive Facet where
  | providers
  | dataSets
  | parameters
  | levels
  deriving DecidableEq

namespace Facet

def all : List Facet := [.providers, .dataSets, .parameters, .levels]

theorem mem_all (facet : Facet) : facet ∈ all := by cases facet <;> decide

def label : Facet → String
  | .providers => "providers"
  | .dataSets => "data_sets"
  | .parameters => "parameters"
  | .levels => "levels"

@[reducible]
def role : Facet → Role
  | .providers => .provider
  | .dataSets => .dataSet
  | .parameters => .parameter
  | .levels => .level

end Facet

structure CatalogEntry where
  dataType : DataType
  provider : ProviderName
  dataSet : DataSetName
  coverage : Envelope
  parameters : List ParameterName
  levels : List LevelName
  deriving DecidableEq

def CatalogEntry.values (entry : CatalogEntry) : (facet : Facet) → List (Name facet.role)
  | .providers => [entry.provider]
  | .dataSets => [entry.dataSet]
  | .parameters => entry.parameters
  | .levels => entry.levels

abbrev Catalog := List CatalogEntry

namespace Catalog

def selection (catalog : Catalog) (dataType : DataType) (area : Option Envelope) : Catalog :=
  catalog.filter fun entry =>
    decide (entry.dataType = dataType) && area.all entry.coverage.intersects

/-- All values of a facet in the order of the catalog, with repeats. -/
def values (catalog : Catalog) (facet : Facet) (dataType : DataType) (area : Option Envelope) :
    List (Name facet.role) :=
  (catalog.selection dataType area).flatMap fun entry => entry.values facet

end Catalog

end SubscriptionDesk
