import Relata.Source.Line

/-!
# Helpers of the generated module

The classes and functions that every generated module declares, whatever its model. They rest on
the tables that the rest of the module declares.

## Main definitions

* `Helpers.declarations` — the declarations in their order.
* `Helpers.lines` — their lines, with an empty line between two declarations.
-/

namespace Relata.Module

namespace Helpers

/-- The error for an empty object id. -/
def emptyIdentifierError : List String :=
  [ "export class EmptyIdentifierError extends Error \x7b",
    "  readonly objectType: string;",
    "",
    "  constructor(objectType: string) \x7b",
    "    super(`object id for type '$\x7bobjectType\x7d' cannot be empty`);",
    "    this.name = \"EmptyIdentifierError\";",
    "    this.objectType = objectType;",
    "  \x7d",
    "\x7d" ]

/-- The error for a relation that a type does not have. -/
def unknownRelationError : List String :=
  [ "export class UnknownRelationError extends Error \x7b",
    "  readonly objectType: string;",
    "  readonly relation: string;",
    "",
    "  constructor(objectType: string, relation: string) \x7b",
    "    super(`relation '$\x7brelation\x7d' is not defined on type '$\x7bobjectType\x7d'`);",
    "    this.name = \"UnknownRelationError\";",
    "    this.objectType = objectType;",
    "    this.relation = relation;",
    "  \x7d",
    "\x7d" ]

/-- The parts of an object reference. -/
def parsedObject : List String :=
  [ "export interface ParsedObject \x7b",
    "  type: ObjectTypeName;",
    "  id: string;",
    "\x7d" ]

/-- The test whether a text is the name of an object type. -/
def isObjectType : List String :=
  [ "export function isObjectType(value: string): value is ObjectTypeName \x7b",
    "  return Object.prototype.hasOwnProperty.call(RelationsByObject, value);",
    "\x7d" ]

/-- Writes an object reference. -/
def formatObject : List String :=
  [ "export function formatObject<T extends ObjectTypeName>(type: T, id: string): " ++
      "`$\x7bT\x7d:$\x7bstring\x7d` \x7b",
    "  if (id.length === 0) \x7b",
    "    throw new EmptyIdentifierError(type);",
    "  \x7d",
    "  return `$\x7btype\x7d:$\x7bid\x7d`;",
    "\x7d" ]

/-- Reads an object reference. -/
def parseObject : List String :=
  [ "export function parseObject(value: string): ParsedObject | null \x7b",
    "  const separator = value.indexOf(\":\");",
    "  if (separator < 0) \x7b",
    "    return null;",
    "  \x7d",
    "  const type = value.slice(0, separator);",
    "  const id = value.slice(separator + 1);",
    "  if (id.length === 0 || !isObjectType(type)) \x7b",
    "    return null;",
    "  \x7d",
    "  return \x7b type, id \x7d;",
    "\x7d" ]

/-- The test whether a type has a relation. -/
def isValidRelation : List String :=
  [ "export function isValidRelation(type: string, relation: string): boolean \x7b",
    "  if (!isObjectType(type)) \x7b",
    "    return false;",
    "  \x7d",
    "  const relations: readonly string[] = RelationsByObject[type];",
    "  return relations.includes(relation);",
    "\x7d" ]

/-- Builds the key of a relationship. -/
def buildTupleKey : List String :=
  [ "export function buildTupleKey<T extends ObjectTypeName>(",
    "  type: T,",
    "  id: string,",
    "  relation: string,",
    "  user: string,",
    "  condition?: TupleKeyCondition,",
    "): TupleKeyMap[T] \x7b",
    "  if (!isValidRelation(type, relation)) \x7b",
    "    throw new UnknownRelationError(type, relation);",
    "  \x7d",
    "  const key = \x7b",
    "    type,",
    "    object: formatObject(type, id),",
    "    relation,",
    "    user,",
    "    ...(condition === undefined ? \x7b\x7d : \x7b condition \x7d),",
    "  \x7d;",
    "  return key as unknown as TupleKeyMap[T];",
    "\x7d" ]

/-- The declarations in their order. -/
def declarations : List (List String) :=
  [emptyIdentifierError, unknownRelationError, parsedObject, isObjectType, formatObject,
    parseObject, isValidRelation, buildTupleKey]

/-- The lines of declarations, with an empty line between two of them. -/
def separate : List (List String) → List String
  | [] => []
  | [d] => d
  | d :: e :: rest => d ++ "" :: separate (e :: rest)

/-- The lines of all declarations. -/
def lines : List Source.Line := (separate declarations).map Source.Line.flush

/-- The declarations as a text. -/
def text : String := Source.render lines

end Helpers

end Relata.Module
