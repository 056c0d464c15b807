import Std.Data.ExtTreeMap

namespace AsCensus
namespace Whois

open Std

/-!
# Fields of a WHOIS record

Registries name the same things differently.  A record has ten canonical fields;
each family of registries has its own attribute names for them.
-/

/-- A field of a WHOIS record. -/
inductive Field
  | asName
  | orgId
  | orgName
  | remarks
  | address
  | city
  | stateProv
  | postalCode
  | country
  | source
  deriving DecidableEq, Repr

namespace Field

/-- All fields in the order in which a record lists them. -/
def all : List Field :=
  [asName, orgId, orgName, remarks, address, city, stateProv, postalCode, country, source]

/-- The name of a field, which is also the name of its column. -/
def name : Field -> String
  | asName => "as_name"
  | orgId => "org_id"
  | orgName => "org_name"
  | remarks => "remarks"
  | address => "address"
  | city => "city"
  | stateProv => "state_prov"
  | postalCode => "postal_code"
  | country => "country"
  | source => "source"

/-- The field with a given name. -/
def ofName? (name : String) : Option Field :=
  all.find? fun field => field.name == name

/-- The place of a field in the order of `all`. -/
def index (field : Field) : Nat :=
  field.ctorIdx

theorem index_inj {a b : Field} (same : a.index = b.index) : a = b := by
  cases a <;> cases b <;> first | rfl | exact absurd same (by decide)

theorem mem_all (field : Field) : field ∈ all := by
  cases field <;> decide

instance : Ord Field where
  compare a b := compare a.index b.index

theorem compare_eq (a b : Field) : compare a b = compare a.index b.index := rfl

instance : TransOrd Field :=
  inferInstanceAs (TransCmp (compareOn index))

instance : LawfulEqOrd Field where
  eq_of_compare {a b} same := by
    rw [compare_eq] at same
    exact index_inj (LawfulEqOrd.eq_of_compare same)

end Field

/-- The families of registries: each has its own attribute names, and its own way
to tell where the useful part of an answer ends. -/
inductive Family
  | arin
  | ripeLike
  | lacnicLike
  deriving DecidableEq, Repr

namespace Family

/-- All families. -/
def all : List Family := [arin, ripeLike, lacnicLike]

/-- The name of a family. -/
def name : Family -> String
  | arin => "arin"
  | ripeLike => "ripelike"
  | lacnicLike => "lacniclike"

/-- The family with a given name. -/
def ofName? (name : String) : Option Family :=
  all.find? fun family => family.name == name

/-- The attribute names of a family and the fields that they fill. -/
def attributes : Family -> List (String × Field)
  | arin =>
      [("ASName", .asName), ("OrgId", .orgId), ("OrgName", .orgName), ("Address", .address),
        ("City", .city), ("StateProv", .stateProv), ("PostalCode", .postalCode),
        ("Country", .country), ("Comment", .remarks)]
  | ripeLike =>
      [("as-name", .asName), ("descr", .remarks), ("org", .orgId), ("org-name", .orgName),
        ("address", .address), ("country", .country)]
  | lacnicLike =>
      [("owner", .orgName), ("ownerid", .orgId), ("address", .address), ("country", .country)]

/-- The field that an attribute of a family fills. -/
def fieldOf (family : Family) (attributeName : String) : Option Field :=
  family.attributes.lookup attributeName

end Family
end Whois
end AsCensus
