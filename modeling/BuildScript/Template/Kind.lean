/-!
The kinds of the values that a template can come to, with what each says of itself.
-/

namespace BuildScript.Template

/-- The kinds of values. -/
inductive Kind where
  | text
  | whole
  | float
  | tuple
  | nothing
  | object
  | kind
  | method
  | methodDefinition
  | attributeDefinition
  deriving Repr, DecidableEq

namespace Kind

/-- The name of a kind. -/
def name : Kind → String
  | text => "str"
  | whole => "int"
  | float => "float"
  | tuple => "tuple"
  | nothing => "NoneType"
  | object => "object"
  | kind => "type"
  | method => "builtin_function_or_method"
  | methodDefinition => "method_descriptor"
  | attributeDefinition => "getset_descriptor"

/-- The text that shows a kind. -/
def shown (k : Kind) : String := "<class '" ++ k.name ++ "'>"

/-- The kind of all objects, unless it is meant itself. -/
def bases (k : Kind) : List Kind := if k = object then [] else [object]

/-- What a kind says of itself, line by line, if anything. -/
def descriptionLines : Kind → List String
  | text =>
    ["str(object='') -> str", "str(bytes_or_buffer[, encoding[, errors]]) -> str", "",
     "Create a new string object from the given object. If encoding or",
     "errors is specified, then the object must expose a data buffer",
     "that will be decoded using the given encoding and error handler.",
     "Otherwise, returns the result of object.__str__() (if defined)", "or repr(object).",
     "encoding defaults to sys.getdefaultencoding().", "errors defaults to 'strict'."]
  | whole =>
    ["int([x]) -> integer", "int(x, base=10) -> integer", "",
     "Convert a number or string to an integer, or return 0 if no arguments",
     "are given.  If x is a number, return x.__int__().  For floating point",
     "numbers, this truncates towards zero.", "",
     "If x is not a number or if base is given, then x must be a string,",
     "bytes, or bytearray instance representing an integer literal in the",
     "given base.  The literal can be preceded by '+' or '-' and be surrounded",
     "by whitespace.  The base defaults to 10.  Valid bases are 0 and 2-36.",
     "Base 0 means to interpret the base from the string as an integer literal.",
     ">>> int('0b100', base=0)", "4"]
  | float => ["Convert a string or number to a floating point number, if possible."]
  | tuple =>
    ["Built-in immutable sequence.", "",
     "If no argument is given, the constructor returns an empty tuple.",
     "If iterable is specified the tuple is initialized from iterable's items.", "",
     "If the argument is a tuple, the return value is the same object."]
  | object =>
    ["The base class of the class hierarchy.", "",
     "When called, it accepts no arguments and returns a new featureless",
     "instance that has no instance attributes and cannot be given any.", ""]
  | kind => ["type(object) -> the object's type", "type(name, bases, dict, **kwds) -> a new type"]
  | nothing | method | methodDefinition | attributeDefinition => []

/-- What a kind says of itself, if anything. -/
def description? (k : Kind) : Option String :=
  if k.descriptionLines.isEmpty then none else some ("\n".intercalate k.descriptionLines)

/-- The names of the methods of a kind. -/
def methods : Kind → List String
  | text =>
    ["capitalize", "casefold", "center", "count", "encode", "endswith", "expandtabs", "find",
     "format", "format_map", "index", "isalnum", "isalpha", "isascii", "isdecimal", "isdigit",
     "isidentifier", "islower", "isnumeric", "isprintable", "isspace", "istitle", "isupper", "join",
     "ljust", "lower", "lstrip", "partition", "removeprefix", "removesuffix", "replace",
     "rfind", "rindex", "rjust", "rpartition", "rsplit", "rstrip", "split", "splitlines",
     "startswith", "strip", "swapcase", "title", "translate", "upper", "zfill"]
  | whole => ["as_integer_ratio", "bit_count", "bit_length", "conjugate", "to_bytes"]
  | float => ["as_integer_ratio", "conjugate", "hex", "is_integer"]
  | tuple => ["count", "index"]
  | _ => []

/-- The names of the attributes of a kind that are values themselves. -/
def attributes : Kind → List String
  | whole => ["real", "imag", "numerator", "denominator"]
  | float => ["real", "imag"]
  | _ => []

end Kind

end BuildScript.Template
