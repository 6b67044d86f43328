/-
This file lists the names of backend types that have a fixed meaning in a client.
-/

namespace TypedClient.Builtin

/-- The type of values about which nothing is known. -/
def anyText : String := "any"

def voidText : String := "void"

def stringText : String := "string"

/-- The types of the backend's plumbing, which never reach a client. -/
def infrastructureNames : List String :=
  ["CancellationToken", "HttpContext", "HttpRequest", "HttpResponse", "ClaimsPrincipal",
    "IMediator", "ISender", "IPublisher", "IDispatcher", "IMapper", "IServiceProvider", "ILogger",
    "ILoggerFactory", "IConfiguration", "IOptions", "IWebHostEnvironment",
    "IHttpContextAccessor", "DbContext", "LinkGenerator"]

def stringNames : List String :=
  ["string", "String", "char", "Char", "BigInteger", "Int128", "UInt128", "DateTime",
    "DateTimeOffset", "DateOnly", "TimeOnly", "TimeSpan", "Guid", "Uri", "Ulid"]

def numberNames : List String :=
  ["byte", "Byte", "sbyte", "SByte", "short", "Int16", "ushort", "UInt16", "int", "Int32",
    "uint", "UInt32", "long", "Int64", "ulong", "UInt64", "float", "Single", "double", "Double",
    "decimal", "Decimal", "Half", "nint", "nuint"]

/-- The names of types that travel as truth values. -/
def booleanNames : List String :=
  ["bool", "Boolean"]

def binaryNames : List String :=
  ["Stream", "MemoryStream", "FileStream", "FileResult", "FileContentResult", "FileStreamResult",
    "PhysicalFileResult", "VirtualFileResult"]

/-- The names of types without a known shape. -/
def untypedNames : List String :=
  ["object", "Object", "dynamic", "JsonElement", "JsonDocument", "JsonNode", "JsonObject",
    "JObject", "JToken", "JArray", "ExpandoObject"]

/-- Tells whether a type belongs to the backend's plumbing. -/
def isInfrastructure (name : String) : Bool :=
  infrastructureNames.contains name

/-- The client type of a name with a fixed meaning. -/
def primitive? (name : String) : Option String :=
  if stringNames.contains name then some stringText
  else if numberNames.contains name then some "number"
  else if booleanNames.contains name then some "boolean"
  else if binaryNames.contains name then some "Blob"
  else if name == "IFormFile" then some "File"
  else if name == "IFormFileCollection" then some "File[]"
  else if name == "void" || name == "Void" then some voidText
  else if untypedNames.contains name || isInfrastructure name then some anyText
  else none

/-- Tells whether a generic type merely carries its argument. -/
def isErasedWrapper (name : String) : Bool :=
  ["Nullable", "Optional", "Task", "ValueTask", "ActionResult", "Ok", "Created",
    "CreatedAtRoute", "Accepted", "AcceptedAtRoute"].contains name

/-- Tells whether a type without arguments is an answer without content. -/
def isEmptyResult (name : String) : Bool :=
  ["Task", "ValueTask", "IActionResult", "ActionResult", "IResult", "NoContent", "Ok",
    "Accepted"].contains name

/-- Tells whether a type carries either a value or failures, and stays so in a client. -/
def isOutcome (name : String) : Bool :=
  ["Result", "OperationResult"].contains name

/-- Tells whether a generic type lists the possible answers of an operation. -/
def isResultUnion (name : String) : Bool :=
  name == "Results"

/-- Tells whether a generic type relates keys to values. -/
def isMap (name : String) : Bool :=
  ["Dictionary", "IDictionary", "IReadOnlyDictionary", "SortedDictionary", "SortedList",
    "ConcurrentDictionary", "ImmutableDictionary", "IImmutableDictionary"].contains name

/-- Tells whether a generic type is a set. -/
def isSet (name : String) : Bool :=
  ["HashSet", "ISet", "SortedSet", "IReadOnlySet", "ImmutableHashSet",
    "ImmutableSortedSet"].contains name

/-- Tells whether a generic type is a tuple. -/
def isTuple (name : String) : Bool :=
  ["ValueTuple", "Tuple"].contains name

end TypedClient.Builtin
