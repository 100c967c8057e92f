import EntityGraph.Dict

/-!
# Entity models

A model names entities, their attributes and the enum types that attributes use. An
attribute is a scalar, a constant of an enum type, a collection of such elements, or an
association with another entity. An association is a `Relationship` seen from its source:
how many targets one source has, and which side holds the reference.
-/

namespace EntityGraph

/-- The scalar types of attributes. -/
inductive ScalarType where
  | boolean
  | smallint
  | integer
  | bigint
  | real
  | doublePrecision
  | numeric
  | characterVarying
  | text
  | date
  | timestamp
  | uuid
deriving DecidableEq

namespace ScalarType

/-- Every scalar type. -/
def all : List ScalarType :=
  [boolean, smallint, integer, bigint, real, doublePrecision, numeric, characterVarying, text,
    date, timestamp, uuid]

/-- The name of a scalar type. -/
def name : ScalarType → String
  | boolean => "boolean"
  | smallint => "smallint"
  | integer => "integer"
  | bigint => "bigint"
  | real => "real"
  | doublePrecision => "double precision"
  | numeric => "numeric"
  | characterVarying => "character varying"
  | text => "text"
  | date => "date"
  | timestamp => "timestamp"
  | uuid => "uuid"

/-- Whether values of the type are whole numbers. -/
def isIntegral : ScalarType → Bool
  | smallint | integer | bigint => true
  | _ => false

/-- Whether values of the type are floating point numbers. -/
def isFractional : ScalarType → Bool
  | real | doublePrecision | numeric => true
  | _ => false

/-- Whether values of the type are text that is kept as it is. -/
def isTextual : ScalarType → Bool
  | characterVarying | text | date | timestamp => true
  | _ => false

end ScalarType

/-- What an element collection holds. -/
inductive ElementType where
  | basic (scalar : ScalarType)
  | enum (enumType : String)
deriving DecidableEq

/-- The kinds of association between two entities. -/
inductive AssociationKind where
  | manyToOne
  | oneToOne
  | oneToMany
  | manyToMany
deriving DecidableEq

namespace AssociationKind

/-- Every kind of association. -/
def all : List AssociationKind := [manyToOne, oneToOne, oneToMany, manyToMany]

/-- The name of a kind of association. -/
def name : AssociationKind → String
  | manyToOne => "manyToOne"
  | oneToOne => "oneToOne"
  | oneToMany => "oneToMany"
  | manyToMany => "manyToMany"

end AssociationKind

/-- The shape of an attribute. -/
inductive AttributeType where
  /-- A single scalar. -/
  | basic (scalar : ScalarType)
  /-- A single constant of an enum type. -/
  | enum (enumType : String)
  /-- A collection of scalars or constants. -/
  | collection (element : ElementType)
  /-- A reference to instances of another entity, possibly held by an attribute of theirs. -/
  | association (target : String) (kind : AssociationKind) (mappedBy? : Option String)
deriving DecidableEq

/-- Whether something is one value or many. -/
inductive Cardinality where
  | singular
  | plural
deriving DecidableEq

namespace AttributeType

/-- The scalar type of the attribute or of its elements. -/
def scalar? : AttributeType → Option ScalarType
  | basic scalar => some scalar
  | collection (.basic scalar) => some scalar
  | _ => none

/-- The enum type of the attribute or of its elements. -/
def enum? : AttributeType → Option String
  | enum enumType => some enumType
  | collection (.enum enumType) => some enumType
  | _ => none

/-- Whether the attribute is an association. -/
def isAssociation : AttributeType → Bool
  | association .. => true
  | _ => false

/-- Whether the attribute holds one value or many. -/
def cardinality : AttributeType → Cardinality
  | basic _ | enum _ => .singular
  | collection _ => .plural
  | association _ kind _ =>
    match kind with
    | .manyToOne | .oneToOne => .singular
    | .oneToMany | .manyToMany => .plural

end AttributeType

/-- An attribute of an entity. -/
structure Attribute where
  type : AttributeType
  description? : Option String
deriving DecidableEq

/-- An entity, with the attribute that holds its identity. -/
structure Entity where
  idAttribute : String
  attributes : Dict Attribute
  description? : Option String
deriving DecidableEq

/-- An enum type: its constants in the order of their declaration. -/
structure EnumType where
  constants : List String
deriving DecidableEq

/-- An entity model. -/
structure Model where
  entities : Dict Entity
  enumTypes : Dict EnumType
deriving DecidableEq

/-- Which side of a relationship holds the reference. -/
inductive Ownership where
  /-- The source refers to its target directly. -/
  | owning
  /-- The target refers to its source, in the named attribute. -/
  | mappedBy (attr : String)
  /-- The references are kept between the two entities. -/
  | association
deriving DecidableEq

/-- An association seen from its source. -/
structure Relationship where
  source : String
  attr : String
  target : String
  cardinality : Cardinality
  ownership : Ownership
deriving DecidableEq

namespace AttributeType

/-- The relationship that an attribute of `source` describes, if it is an association. One
source has many targets unless each target, or the single one, is named `…ToOne`. References
between many sources and many targets are kept between the entities even if the attribute is
mapped. -/
def relationship? (source attr : String) : AttributeType → Option Relationship
  | association target kind mappedBy? =>
    some <| match kind, mappedBy? with
    | .manyToOne, none | .oneToOne, none => ⟨source, attr, target, .singular, .owning⟩
    | .manyToOne, some owner | .oneToOne, some owner =>
      ⟨source, attr, target, .singular, .mappedBy owner⟩
    | .oneToMany, some owner => ⟨source, attr, target, .plural, .mappedBy owner⟩
    | .oneToMany, none | .manyToMany, _ => ⟨source, attr, target, .plural, .association⟩
  | _ => none

end AttributeType

namespace Model

/-- The model without entities. -/
def empty : Model := ⟨Dict.empty, Dict.empty⟩

/-- The entity of a name. -/
def entity? (model : Model) (name : String) : Option Entity :=
  model.entities.get? name

/-- An attribute of an entity. -/
def attribute? (model : Model) (entity attr : String) : Option Attribute :=
  (model.entity? entity).bind fun info => info.attributes.get? attr

/-- The enum type of a name. -/
def enumType? (model : Model) (name : String) : Option EnumType :=
  model.enumTypes.get? name

/-- The position of a constant in the declaration of its enum type. -/
def enumPosition? (model : Model) (enumType constant : String) : Option Nat :=
  (model.enumType? enumType).bind fun info => info.constants.idxOf? constant

end Model

end EntityGraph
