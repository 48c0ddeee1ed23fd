import SubscriptionDesk.AscendingSet

namespace SubscriptionDesk

inductive Role where
  | subscription
  | user
  | office
  | dataType
  | provider
  | dataSet
  | parameter
  | level
  deriving DecidableEq

/-- An opaque name; names of different roles do not mix. -/
structure Name (role : Role) where
  text : String
  deriving DecidableEq

variable {role : Role}

instance : ToString (Name role) := ⟨Name.text⟩

instance : LT (Name role) := ⟨fun left right => left.text < right.text⟩

instance : DecidableLT (Name role) := fun left right =>
  inferInstanceAs (Decidable (left.text < right.text))

instance : StrictTotalOrder (Name role) where
  irrefl name := String.lt_irrefl name.text
  trans hab hbc := String.lt_trans hab hbc
  eq_of_not_lt := by
    rintro ⟨left⟩ ⟨right⟩ hab hba
    exact congrArg Name.mk (StrictTotalOrder.eq_of_not_lt hab hba)

abbrev SubscriptionName := Name .subscription
abbrev UserId := Name .user
abbrev DataType := Name .dataType
abbrev ProviderName := Name .provider
abbrev DataSetName := Name .dataSet
abbrev ParameterName := Name .parameter
abbrev LevelName := Name .level

abbrev NameSet (role : Role) := AscendingSet (Name role)

def NameSet.texts (names : NameSet role) : List String := names.members.map Name.text

def NameSet.joined (names : NameSet role) : String := ", ".intercalate names.texts

end SubscriptionDesk
