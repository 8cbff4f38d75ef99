import CaseWorkflow.Template.Kind.Basic

/-!
# The table of kinds

The features of the kinds that the names of a template can reach.
-/

namespace CaseWorkflow.Template

namespace Kind

def all : List Kind := [
  { name := "object"
    operators := [
      "__repr__", "__hash__", "__str__", "__getattribute__", "__setattr__", "__delattr__",
      "__lt__", "__le__", "__eq__", "__ne__", "__gt__", "__ge__", "__init__"]
    methods := [
      "__reduce_ex__", "__reduce__", "__getstate__", "__format__", "__sizeof__", "__dir__"]
    shared := ["__subclasshook__", "__init_subclass__"]
    fixed := ["__new__"]
    attributes := ["__class__"]
    constants := ["__doc__"]
    doc := "The base class of the class hierarchy.\n\nWhen called, it accepts no arguments and "
      ++ "returns a new featureless\ninstance that has no instance attributes and cannot be "
      ++ "given any.\n" },
  { name := "NoneType"
    above := ["object"]
    operators := ["__repr__", "__bool__"]
    fixed := ["__new__"]
    constants := ["__doc__"] },
  { name := "bool"
    above := ["int", "object"]
    operators := ["__repr__", "__and__", "__rand__", "__xor__", "__rxor__", "__or__", "__ror__"]
    fixed := ["__new__"]
    constants := ["__doc__"]
    doc := "bool(x) -> bool\n\nReturns True when the argument x is true, False otherwise.\nThe "
      ++ "builtins True and False are the only two instances of the class bool.\nThe class "
      ++ "bool is a subclass of the class int, and cannot be subclassed." },
  { name := "int"
    above := ["object"]
    operators := [
      "__repr__", "__hash__", "__getattribute__", "__lt__", "__le__", "__eq__", "__ne__",
      "__gt__", "__ge__", "__add__", "__radd__", "__sub__", "__rsub__", "__mul__", "__rmul__",
      "__mod__", "__rmod__", "__divmod__", "__rdivmod__", "__pow__", "__rpow__", "__neg__",
      "__pos__", "__abs__", "__bool__", "__invert__", "__lshift__", "__rlshift__",
      "__rshift__", "__rrshift__", "__and__", "__rand__", "__xor__", "__rxor__", "__or__",
      "__ror__", "__int__", "__float__", "__floordiv__", "__rfloordiv__", "__truediv__",
      "__rtruediv__", "__index__"]
    methods := [
      "conjugate", "bit_length", "bit_count", "to_bytes", "as_integer_ratio", "__trunc__",
      "__floor__", "__ceil__", "__round__", "__getnewargs__", "__format__", "__sizeof__"]
    shared := ["from_bytes"]
    fixed := ["__new__"]
    attributes := ["real", "imag", "numerator", "denominator"]
    constants := ["__doc__"]
    doc := "int([x]) -> integer\nint(x, base=10) -> integer\n\nConvert a number or string to an "
      ++ "integer, or return 0 if no arguments\nare given.  If x is a number, return "
      ++ "x.__int__().  For floating point\nnumbers, this truncates towards zero.\n\nIf x is "
      ++ "not a number or if base is given, then x must be a string,\nbytes, or bytearray "
      ++ "instance representing an integer literal in the\ngiven base.  The literal can be "
      ++ "preceded by '+' or '-' and be surrounded\nby whitespace.  The base defaults to 10.  "
      ++ "Valid bases are 0 and 2-36.\nBase 0 means to interpret the base from the string as "
      ++ "an integer literal.\n>>> int('0b100', base=0)\n4" },
  { name := "float"
    above := ["object"]
    operators := [
      "__repr__", "__hash__", "__getattribute__", "__lt__", "__le__", "__eq__", "__ne__",
      "__gt__", "__ge__", "__add__", "__radd__", "__sub__", "__rsub__", "__mul__", "__rmul__",
      "__mod__", "__rmod__", "__divmod__", "__rdivmod__", "__pow__", "__rpow__", "__neg__",
      "__pos__", "__abs__", "__bool__", "__int__", "__float__", "__floordiv__",
      "__rfloordiv__", "__truediv__", "__rtruediv__"]
    methods := [
      "conjugate", "__trunc__", "__floor__", "__ceil__", "__round__", "as_integer_ratio",
      "hex", "is_integer", "__getnewargs__", "__format__"]
    shared := ["fromhex", "__getformat__"]
    fixed := ["__new__"]
    attributes := ["real", "imag"]
    constants := ["__doc__"]
    doc := "Convert a string or number to a floating point number, if possible." },
  { name := "str"
    above := ["object"]
    operators := [
      "__repr__", "__hash__", "__str__", "__getattribute__", "__lt__", "__le__", "__eq__",
      "__ne__", "__gt__", "__ge__", "__iter__", "__mod__", "__rmod__", "__len__",
      "__getitem__", "__add__", "__mul__", "__rmul__", "__contains__"]
    methods := [
      "encode", "replace", "split", "rsplit", "join", "capitalize", "casefold", "title",
      "center", "count", "expandtabs", "find", "partition", "index", "ljust", "lower",
      "lstrip", "rfind", "rindex", "rjust", "rstrip", "rpartition", "splitlines", "strip",
      "swapcase", "translate", "upper", "startswith", "endswith", "removeprefix",
      "removesuffix", "isascii", "islower", "isupper", "istitle", "isspace", "isdecimal",
      "isdigit", "isnumeric", "isalpha", "isalnum", "isidentifier", "isprintable", "zfill",
      "format", "format_map", "__format__", "__sizeof__", "__getnewargs__"]
    fixed := ["__new__", "maketrans"]
    constants := ["__doc__"]
    doc := "str(object='') -> str\nstr(bytes_or_buffer[, encoding[, errors]]) -> str\n\nCreate "
      ++ "a new string object from the given object. If encoding or\nerrors is specified, "
      ++ "then the object must expose a data buffer\nthat will be decoded using the given "
      ++ "encoding and error handler.\nOtherwise, returns the result of object.__str__() (if "
      ++ "defined)\nor repr(object).\nencoding defaults to sys.getdefaultencoding().\nerrors "
      ++ "defaults to 'strict'." },
  { name := "list"
    above := ["object"]
    operators := [
      "__repr__", "__getattribute__", "__lt__", "__le__", "__eq__", "__ne__", "__gt__",
      "__ge__", "__iter__", "__init__", "__len__", "__setitem__", "__delitem__", "__add__",
      "__mul__", "__rmul__", "__contains__", "__iadd__", "__imul__"]
    methods := [
      "__getitem__", "__reversed__", "__sizeof__", "clear", "copy", "append", "insert",
      "extend", "pop", "remove", "index", "count", "reverse", "sort"]
    shared := ["__class_getitem__"]
    fixed := ["__new__"]
    constants := ["__hash__", "__doc__"]
    doc := "Built-in mutable sequence.\n\nIf no argument is given, the constructor creates a "
      ++ "new empty list.\nThe argument must be an iterable if specified." },
  { name := "dict"
    above := ["object"]
    operators := [
      "__repr__", "__getattribute__", "__lt__", "__le__", "__eq__", "__ne__", "__gt__",
      "__ge__", "__iter__", "__init__", "__or__", "__ror__", "__ior__", "__len__",
      "__setitem__", "__delitem__"]
    methods := [
      "__getitem__", "__contains__", "__sizeof__", "get", "setdefault", "pop", "popitem",
      "keys", "items", "values", "update", "clear", "copy", "__reversed__"]
    shared := ["fromkeys", "__class_getitem__"]
    fixed := ["__new__"]
    constants := ["__hash__", "__doc__"]
    doc := "dict() -> new empty dictionary\ndict(mapping) -> new dictionary initialized from a "
      ++ "mapping object's\n    (key, value) pairs\ndict(iterable) -> new dictionary "
      ++ "initialized as if via:\n    d = \x7b\x7d\n    for k, v in iterable:\n        d[k] = "
      ++ "v\ndict(**kwargs) -> new dictionary initialized with the name=value pairs\n    in "
      ++ "the keyword argument list.  For example:  dict(one=1, two=2)" },
  { name := "tuple"
    above := ["object"]
    operators := [
      "__repr__", "__hash__", "__getattribute__", "__lt__", "__le__", "__eq__", "__ne__",
      "__gt__", "__ge__", "__iter__", "__len__", "__getitem__", "__add__", "__mul__",
      "__rmul__", "__contains__"]
    methods := ["__getnewargs__", "index", "count"]
    shared := ["__class_getitem__"]
    fixed := ["__new__"]
    constants := ["__doc__"]
    doc := "Built-in immutable sequence.\n\nIf no argument is given, the constructor returns an "
      ++ "empty tuple.\nIf iterable is specified the tuple is initialized from iterable's "
      ++ "items.\n\nIf the argument is a tuple, the return value is the same object." },
  { name := "type"
    above := ["object"]
    operators := [
      "__repr__", "__call__", "__getattribute__", "__setattr__", "__delattr__", "__init__",
      "__or__", "__ror__"]
    methods := [
      "mro", "__subclasses__", "__instancecheck__", "__subclasscheck__", "__dir__",
      "__sizeof__"]
    shared := ["__prepare__"]
    fixed := ["__new__"]
    attributes := [
      "__name__", "__qualname__", "__bases__", "__module__", "__abstractmethods__", "__dict__",
      "__doc__", "__text_signature__", "__annotations__"]
    fields := [
      "__basicsize__", "__itemsize__", "__flags__", "__weakrefoffset__", "__base__",
      "__dictoffset__", "__mro__"]
    doc := "type(object) -> the object's type\ntype(name, bases, dict, **kwds) -> a new type" },
  { name := "date"
    home := "datetime"
    above := ["object"]
    operators := [
      "__repr__", "__hash__", "__str__", "__getattribute__", "__lt__", "__le__", "__eq__",
      "__ne__", "__gt__", "__ge__", "__add__", "__radd__", "__sub__", "__rsub__"]
    methods := [
      "ctime", "strftime", "__format__", "timetuple", "isocalendar", "isoformat", "isoweekday",
      "toordinal", "weekday", "replace", "__reduce__"]
    shared := ["fromtimestamp", "fromordinal", "fromisoformat", "fromisocalendar", "today"]
    fixed := ["__new__"]
    attributes := ["year", "month", "day"]
    constants := ["__doc__", "min", "max", "resolution"]
    doc := "date(year, month, day) --> date object" },
  { name := "datetime"
    home := "datetime"
    above := ["date", "object"]
    operators := [
      "__repr__", "__hash__", "__str__", "__getattribute__", "__lt__", "__le__", "__eq__",
      "__ne__", "__gt__", "__ge__", "__add__", "__radd__", "__sub__", "__rsub__"]
    methods := [
      "date", "time", "timetz", "ctime", "timetuple", "timestamp", "utctimetuple", "isoformat",
      "utcoffset", "tzname", "dst", "replace", "astimezone", "__reduce_ex__", "__reduce__"]
    shared := [
      "now", "utcnow", "fromtimestamp", "utcfromtimestamp", "strptime", "combine",
      "fromisoformat"]
    fixed := ["__new__"]
    attributes := ["hour", "minute", "second", "microsecond", "tzinfo", "fold"]
    constants := ["__doc__", "min", "max", "resolution"]
    doc := "datetime(year, month, day[, hour[, minute[, second[, microsecond[,tzinfo]]]]])\n\n"
      ++ "The year, month and day arguments are required. tzinfo may be None, or an\ninstance "
      ++ "of a tzinfo subclass. The remaining arguments may be ints.\n" },
  { name := "timedelta"
    home := "datetime"
    above := ["object"]
    operators := [
      "__repr__", "__hash__", "__str__", "__getattribute__", "__lt__", "__le__", "__eq__",
      "__ne__", "__gt__", "__ge__", "__add__", "__radd__", "__sub__", "__rsub__", "__mul__",
      "__rmul__", "__mod__", "__rmod__", "__divmod__", "__rdivmod__", "__neg__", "__pos__",
      "__abs__", "__bool__", "__floordiv__", "__rfloordiv__", "__truediv__", "__rtruediv__"]
    methods := ["total_seconds", "__reduce__"]
    fixed := ["__new__"]
    fields := ["days", "seconds", "microseconds"]
    constants := ["__doc__", "resolution", "min", "max"]
    doc := "Difference between two datetime values.\n\ntimedelta(days=0, seconds=0, "
      ++ "microseconds=0, milliseconds=0, minutes=0, hours=0, weeks=0)\n\nAll arguments are "
      ++ "optional and default to 0.\nArguments may be integers or floats, and may be "
      ++ "positive or negative." },
  { name := "tzinfo"
    home := "datetime"
    above := ["object"]
    operators := ["__getattribute__"]
    methods := ["tzname", "utcoffset", "dst", "fromutc", "__reduce__"]
    fixed := ["__new__"]
    constants := ["__doc__"]
    doc := "Abstract base class for time zone info objects." },
  { name := "timezone"
    home := "datetime"
    above := ["tzinfo", "object"]
    operators := [
      "__repr__", "__hash__", "__str__", "__lt__", "__le__", "__eq__", "__ne__", "__gt__",
      "__ge__"]
    methods := ["tzname", "utcoffset", "dst", "fromutc", "__getinitargs__"]
    fixed := ["__new__"]
    constants := ["__doc__", "utc", "min", "max"]
    doc := "Fixed offset from UTC implementation of tzinfo." },
  { name := "GenericAlias"
    home := "types"
    above := ["object"]
    operators := [
      "__repr__", "__hash__", "__call__", "__getattribute__", "__lt__", "__le__", "__eq__",
      "__ne__", "__gt__", "__ge__", "__iter__", "__or__", "__ror__", "__getitem__"]
    methods := [
      "__mro_entries__", "__instancecheck__", "__subclasscheck__", "__reduce__", "__dir__"]
    fixed := ["__new__"]
    attributes := ["__parameters__", "__typing_unpacked_tuple_args__"]
    fields := ["__origin__", "__args__", "__unpacked__"]
    constants := ["__doc__"] },
  { name := "builtin_function_or_method"
    above := ["object"]
    operators := [
      "__repr__", "__hash__", "__call__", "__getattribute__", "__lt__", "__le__", "__eq__",
      "__ne__", "__gt__", "__ge__"]
    methods := ["__reduce__"]
    attributes := ["__doc__", "__name__", "__qualname__", "__self__", "__text_signature__"]
    fields := ["__module__"] },
  { name := "method-wrapper"
    above := ["object"]
    operators := [
      "__repr__", "__hash__", "__call__", "__getattribute__", "__lt__", "__le__", "__eq__",
      "__ne__", "__gt__", "__ge__"]
    methods := ["__reduce__"]
    attributes := ["__objclass__", "__name__", "__qualname__", "__doc__", "__text_signature__"]
    fields := ["__self__"] },
  { name := "method_descriptor"
    above := ["object"]
    operators := ["__repr__", "__call__", "__getattribute__", "__get__"]
    methods := ["__reduce__"]
    attributes := ["__doc__", "__qualname__", "__text_signature__"]
    fields := ["__objclass__", "__name__"] },
  { name := "wrapper_descriptor"
    above := ["object"]
    operators := ["__repr__", "__call__", "__getattribute__", "__get__"]
    methods := ["__reduce__"]
    attributes := ["__doc__", "__qualname__", "__text_signature__"]
    fields := ["__objclass__", "__name__"] },
  { name := "getset_descriptor"
    above := ["object"]
    operators := ["__repr__", "__getattribute__", "__get__", "__set__", "__delete__"]
    attributes := ["__doc__", "__qualname__"]
    fields := ["__objclass__", "__name__"] },
  { name := "member_descriptor"
    above := ["object"]
    operators := ["__repr__", "__getattribute__", "__get__", "__set__", "__delete__"]
    methods := ["__reduce__"]
    attributes := ["__doc__", "__qualname__"]
    fields := ["__objclass__", "__name__"] },
  { name := "mappingproxy"
    above := ["object"]
    operators := [
      "__repr__", "__str__", "__getattribute__", "__lt__", "__le__", "__eq__", "__ne__",
      "__gt__", "__ge__", "__iter__", "__or__", "__ror__", "__ior__", "__len__", "__getitem__",
      "__contains__"]
    methods := ["get", "keys", "values", "items", "copy", "__reversed__"]
    shared := ["__class_getitem__"]
    fixed := ["__new__"]
    constants := ["__doc__", "__hash__"] },
  { name := "Enum"
    home := "enum"
    short := true
    above := ["object"] },
  { name := "EnumType"
    home := "enum"
    short := true
    above := ["type", "object"] },
  { name := "ActionType"
    above := ["str", "Enum", "object"]
    bases := ["str", "Enum"]
    doc := "\n    Side-effecting steps a workflow can execute.\n\n    Each type maps to one "
      ++ "host capability (assign_owner, send_notification,\n    send_email, create_alert, "
      ++ "add_tag, add_comment, change_status).\n    " }]

def named? (name : String) : Option Kind := all.find? (·.name == name)

/-- A kind and those above it, the nearest first. -/
def line (name : String) : List Kind :=
  match named? name with
  | some kind => kind :: kind.above.filterMap named?
  | none => []

/-- The feature of a kind with a name, and the nearest kind that brings it. -/
def feature? (kind name : String) : Option (Kind × Feature) :=
  (line kind).findSome? fun k => (k.own? name).map (k, ·)

end Kind

end CaseWorkflow.Template
