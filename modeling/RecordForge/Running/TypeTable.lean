import RecordForge.Text.Cut

/-!
# The types of the language

The names that are bound before a source is run, the types among them with what they build on, and
the attributes that values of each type have besides those that all values have.
-/

namespace RecordForge.Running

/-- The words of a text that has blanks between them. -/
def words (s : String) : List String :=
  Text.parts ' ' s

/-- The types whose objects are no errors. -/
def plainTypes : List String :=
  words ("bool bytearray bytes classmethod complex dict enumerate filter float frozenset int "
    ++ "list map memoryview object property range reversed set slice staticmethod str super "
    ++ "tuple type zip")

/-- The types of errors. -/
def errorTypes : List String :=
  words ("ArithmeticError AssertionError AttributeError BaseException BaseExceptionGroup "
    ++ "BlockingIOError BrokenPipeError BufferError BytesWarning ChildProcessError "
    ++ "ConnectionAbortedError ConnectionError ConnectionRefusedError ConnectionResetError "
    ++ "DeprecationWarning EOFError EncodingWarning Exception ExceptionGroup FileExistsError "
    ++ "FileNotFoundError FloatingPointError FutureWarning GeneratorExit ImportError "
    ++ "ImportWarning IndentationError IndexError InterruptedError IsADirectoryError "
    ++ "KeyError KeyboardInterrupt LookupError MemoryError ModuleNotFoundError NameError "
    ++ "NotADirectoryError NotImplementedError OSError OverflowError "
    ++ "PendingDeprecationWarning PermissionError ProcessLookupError RecursionError "
    ++ "ReferenceError ResourceWarning RuntimeError RuntimeWarning StopAsyncIteration "
    ++ "StopIteration SyntaxError SyntaxWarning SystemError SystemExit TabError TimeoutError "
    ++ "TypeError UnboundLocalError UnicodeDecodeError UnicodeEncodeError UnicodeError "
    ++ "UnicodeTranslateError UnicodeWarning UserWarning ValueError Warning "
    ++ "ZeroDivisionError")

/-- The other names of types of errors. -/
def errorAliases : List (String × String) :=
  [("EnvironmentError", "OSError"), ("IOError", "OSError")]

/-- The functions. -/
def builtinFunctions : List String :=
  words ("__build_class__ __import__ abs aiter all anext any ascii bin breakpoint callable chr "
    ++ "compile copyright credits delattr dir divmod eval exec exit format getattr globals "
    ++ "hasattr hash help hex id input isinstance issubclass iter len license locals max min "
    ++ "next oct open ord pow print quit repr round setattr sorted sum vars")

/-- Types with the types that build on them. -/
def subtypes : List (String × List String) :=
  [
    ("Exception", "ArithmeticError AssertionError AttributeError BufferError EOFError ImportError "
      ++ "LookupError MemoryError NameError OSError ReferenceError RuntimeError "
      ++ "StopAsyncIteration StopIteration SyntaxError SystemError TypeError ValueError "
      ++ "Warning"),
    ("BaseException", "BaseExceptionGroup Exception GeneratorExit KeyboardInterrupt SystemExit"),
    ("OSError", "BlockingIOError ChildProcessError ConnectionError FileExistsError "
      ++ "FileNotFoundError InterruptedError IsADirectoryError NotADirectoryError "
      ++ "PermissionError ProcessLookupError TimeoutError"),
    ("ConnectionError",
      "BrokenPipeError ConnectionAbortedError ConnectionRefusedError ConnectionResetError"),
    ("Warning", "BytesWarning DeprecationWarning EncodingWarning FutureWarning ImportWarning "
      ++ "PendingDeprecationWarning ResourceWarning RuntimeWarning SyntaxWarning "
      ++ "UnicodeWarning UserWarning"),
    ("BaseExceptionGroup", "ExceptionGroup"),
    ("ArithmeticError", "FloatingPointError OverflowError ZeroDivisionError"),
    ("SyntaxError", "IndentationError"),
    ("LookupError", "IndexError KeyError"),
    ("ImportError", "ModuleNotFoundError"),
    ("RuntimeError", "NotImplementedError RecursionError"),
    ("IndentationError", "TabError"),
    ("NameError", "UnboundLocalError"),
    ("UnicodeError", "UnicodeDecodeError UnicodeEncodeError UnicodeTranslateError"),
    ("ValueError", "UnicodeError"),
    ("int", "bool"),
    ("type", "ABCMeta EnumType _AnyMeta"),
    ("Column", "IntegerColumn LongColumn TextColumn DoubleColumn"),
    ("DbObjGenError", "ColumnValueError UnknownVersionError"),
    ("Exception", "DbObjGenError")].map fun (type, names) => (type, words names)

/-- The attributes of the values of types, without those that all values have. -/
def attributeNames : List (String × List String) :=
  [
    ("int",
      "__abs__ __add__ __and__ __bool__ __ceil__ __divmod__ __float__ __floor__ "
        ++ "__floordiv__ __getnewargs__ __index__ __int__ __invert__ __lshift__ __mod__ "
        ++ "__mul__ __neg__ __or__ __pos__ __pow__ __radd__ __rand__ __rdivmod__ __rfloordiv__ "
        ++ "__rlshift__ __rmod__ __rmul__ __ror__ __round__ __rpow__ __rrshift__ __rshift__ "
        ++ "__rsub__ __rtruediv__ __rxor__ __sub__ __truediv__ __trunc__ __xor__ "
        ++ "as_integer_ratio bit_count bit_length conjugate denominator from_bytes imag "
        ++ "numerator real to_bytes"),
    ("float",
      "__abs__ __add__ __bool__ __ceil__ __divmod__ __float__ __floor__ __floordiv__ "
        ++ "__getformat__ __getnewargs__ __int__ __mod__ __mul__ __neg__ __pos__ __pow__ "
        ++ "__radd__ __rdivmod__ __rfloordiv__ __rmod__ __rmul__ __round__ __rpow__ __rsub__ "
        ++ "__rtruediv__ __sub__ __truediv__ __trunc__ as_integer_ratio conjugate fromhex hex "
        ++ "imag is_integer real"),
    ("complex",
      "__abs__ __add__ __bool__ __complex__ __getnewargs__ __mul__ __neg__ __pos__ "
        ++ "__pow__ __radd__ __rmul__ __rpow__ __rsub__ __rtruediv__ __sub__ __truediv__ "
        ++ "conjugate imag real"),
    ("str",
      "__add__ __contains__ __getitem__ __getnewargs__ __iter__ __len__ __mod__ __mul__ "
        ++ "__rmod__ __rmul__ capitalize casefold center count encode endswith expandtabs find "
        ++ "format format_map index isalnum isalpha isascii isdecimal isdigit isidentifier "
        ++ "islower isnumeric isprintable isspace istitle isupper join ljust lower lstrip "
        ++ "maketrans partition removeprefix removesuffix replace rfind rindex rjust "
        ++ "rpartition rsplit rstrip split splitlines startswith strip swapcase title "
        ++ "translate upper zfill"),
    ("bytes",
      "__add__ __bytes__ __contains__ __getitem__ __getnewargs__ __iter__ __len__ __mod__ "
        ++ "__mul__ __rmod__ __rmul__ capitalize center count decode endswith expandtabs find "
        ++ "fromhex hex index isalnum isalpha isascii isdigit islower isspace istitle isupper "
        ++ "join ljust lower lstrip maketrans partition removeprefix removesuffix replace "
        ++ "rfind rindex rjust rpartition rsplit rstrip split splitlines startswith strip "
        ++ "swapcase title translate upper zfill"),
    ("bytearray",
      "__add__ __alloc__ __contains__ __delitem__ __getitem__ __iadd__ __imul__ __iter__ "
        ++ "__len__ __mod__ __mul__ __rmod__ __rmul__ __setitem__ append capitalize center "
        ++ "clear copy count decode endswith expandtabs extend find fromhex hex index insert "
        ++ "isalnum isalpha isascii isdigit islower isspace istitle isupper join ljust lower "
        ++ "lstrip maketrans partition pop remove removeprefix removesuffix replace reverse "
        ++ "rfind rindex rjust rpartition rsplit rstrip split splitlines startswith strip "
        ++ "swapcase title translate upper zfill"),
    ("list",
      "__add__ __class_getitem__ __contains__ __delitem__ __getitem__ __iadd__ __imul__ "
        ++ "__iter__ __len__ __mul__ __reversed__ __rmul__ __setitem__ append clear copy count "
        ++ "extend index insert pop remove reverse sort"),
    ("tuple",
      "__add__ __class_getitem__ __contains__ __getitem__ __getnewargs__ __iter__ __len__ "
        ++ "__mul__ __rmul__ count index"),
    ("dict",
      "__class_getitem__ __contains__ __delitem__ __getitem__ __ior__ __iter__ __len__ "
        ++ "__or__ __reversed__ __ror__ __setitem__ clear copy fromkeys get items keys pop "
        ++ "popitem setdefault update values"),
    ("set",
      "__and__ __class_getitem__ __contains__ __iand__ __ior__ __isub__ __iter__ __ixor__ "
        ++ "__len__ __or__ __rand__ __ror__ __rsub__ __rxor__ __sub__ __xor__ add clear copy "
        ++ "difference difference_update discard intersection intersection_update isdisjoint "
        ++ "issubset issuperset pop remove symmetric_difference symmetric_difference_update "
        ++ "union update"),
    ("frozenset",
      "__and__ __class_getitem__ __contains__ __iter__ __len__ __or__ __rand__ __ror__ "
        ++ "__rsub__ __rxor__ __sub__ __xor__ copy difference intersection isdisjoint issubset "
        ++ "issuperset symmetric_difference union"),
    ("range",
      "__bool__ __contains__ __getitem__ __iter__ __len__ __reversed__ count index start "
        ++ "step stop"),
    ("slice", "indices start step stop"),
    ("function",
      "__annotations__ __builtins__ __call__ __closure__ __code__ __defaults__ __dict__ "
        ++ "__get__ __globals__ __kwdefaults__ __module__ __name__ __qualname__"),
    ("builtin_function_or_method",
      "__call__ __module__ __name__ __qualname__ __self__ __text_signature__"),
    ("method", "__call__ __func__ __self__"),
    ("type",
      "__abstractmethods__ __annotations__ __base__ __bases__ __basicsize__ __call__ "
        ++ "__dict__ __dictoffset__ __flags__ __instancecheck__ __itemsize__ __module__ "
        ++ "__mro__ __name__ __or__ __prepare__ __qualname__ __ror__ __subclasscheck__ "
        ++ "__subclasses__ __text_signature__ __weakrefoffset__ mro"),
    ("NoneType", "__bool__"),
    ("module", "__annotations__ __dict__"),
    ("generator",
      "__del__ __iter__ __name__ __next__ __qualname__ close gi_code gi_frame gi_running "
        ++ "gi_suspended gi_yieldfrom send throw"),
    ("coroutine",
      "__await__ __del__ __name__ __qualname__ close cr_await cr_code cr_frame cr_origin "
        ++ "cr_running cr_suspended send throw"),
    ("property",
      "__delete__ __get__ __isabstractmethod__ __set__ __set_name__ deleter fdel fget "
        ++ "fset getter setter"),
    ("staticmethod", "__call__ __dict__ __func__ __get__ __isabstractmethod__ __wrapped__"),
    ("classmethod", "__dict__ __func__ __get__ __isabstractmethod__ __wrapped__"),
    ("super", "__get__ __self__ __self_class__ __thisclass__"),
    ("enumerate", "__class_getitem__ __iter__ __next__"),
    ("zip", "__iter__ __next__ __setstate__"),
    ("map", "__iter__ __next__"),
    ("filter", "__iter__ __next__"),
    ("reversed", "__iter__ __length_hint__ __next__ __setstate__"),
    ("memoryview",
      "__delitem__ __enter__ __exit__ __getitem__ __iter__ __len__ __setitem__ "
        ++ "c_contiguous cast contiguous f_contiguous format hex itemsize nbytes ndim obj "
        ++ "readonly release shape strides suboffsets tobytes tolist toreadonly"),
    ("NotImplementedType", "__bool__"),
    ("method_descriptor",
      "__call__ __get__ __name__ __objclass__ __qualname__ __text_signature__"),
    ("list_iterator", "__iter__ __length_hint__ __next__ __setstate__"),
    ("dict_keys",
      "__and__ __contains__ __iter__ __len__ __or__ __rand__ __reversed__ __ror__ "
        ++ "__rsub__ __rxor__ __sub__ __xor__ isdisjoint mapping"),
    ("dict_values", "__iter__ __len__ __reversed__ mapping"),
    ("dict_items",
      "__and__ __contains__ __iter__ __len__ __or__ __rand__ __reversed__ __ror__ "
        ++ "__rsub__ __rxor__ __sub__ __xor__ isdisjoint mapping"),
    ("method-wrapper",
      "__call__ __name__ __objclass__ __qualname__ __self__ __text_signature__"),
    ("wrapper_descriptor",
      "__call__ __get__ __name__ __objclass__ __qualname__ __text_signature__"),
    ("tuple_iterator", "__iter__ __length_hint__ __next__ __setstate__"),
    ("str_ascii_iterator", "__iter__ __length_hint__ __next__ __setstate__"),
    ("range_iterator", "__iter__ __length_hint__ __next__ __setstate__"),
    ("set_iterator", "__iter__ __length_hint__ __next__"),
    ("dict_keyiterator", "__iter__ __length_hint__ __next__"),
    ("object",
      "__class__ __delattr__ __dir__ __doc__ __eq__ __format__ __ge__ __getattribute__ "
        ++ "__getstate__ __gt__ __hash__ __init__ __init_subclass__ __le__ __lt__ __ne__ "
        ++ "__new__ __reduce__ __reduce_ex__ __repr__ __setattr__ __sizeof__ __str__ "
        ++ "__subclasshook__"),
    ("BaseException",
      "__cause__ __context__ __dict__ __setstate__ __suppress_context__ __traceback__ "
        ++ "add_note args with_traceback"),
    ("AttributeError", "name obj"),
    ("BaseExceptionGroup", "derive exceptions message split subgroup"),
    ("ImportError", "msg name path"),
    ("NameError", "name"),
    ("OSError", "characters_written errno filename filename2 strerror"),
    ("StopIteration", "value"),
    ("SyntaxError", "end_lineno end_offset filename lineno msg offset print_file_and_line text"),
    ("SystemExit", "code"),
    ("UnicodeDecodeError", "encoding end object reason start"),
    ("UnicodeEncodeError", "encoding end object reason start"),
    ("UnicodeTranslateError", "encoding end object reason start"),
    ("Column", "allow_null convert name primary python_type storage_kind version"),
    ("StorageKind", "DOUBLE INTEGER LONG TEXT UNSUPPORTED"),
    ("Template", "__contains__ __len__ _columns add_columns columns get_column"),
    ("DatabaseObject",
      "get_double_value get_integer_value get_long_value get_template get_text_value get_value "
        ++ "set_value to_dict"),
    ("UnknownVersionError", "known_versions version")].map fun (type, names) => (type, words names)

/-- The modules that need not be looked for, without packages. -/
def plainModules : List String :=
  words ("__future__ _abc _ast _asyncio _bisect _blake2 _bz2 _codecs _codecs_cn _codecs_hk "
    ++ "_codecs_iso2022 _codecs_jp _codecs_kr _codecs_tw _collections _collections_abc "
    ++ "_compat_pickle _compression _contextvars _crypt _csv _ctypes _curses _curses_panel "
    ++ "_datetime _dbm _decimal _elementtree _frozen_importlib _frozen_importlib_external "
    ++ "_functools _gdbm _hashlib _heapq _imp _io _json _locale _lsprof _lzma _markupbase _md5 "
    ++ "_multibytecodec _multiprocessing _opcode _operator _pickle _posixshmem _posixsubprocess "
    ++ "_py_abc _pydecimal _pyio _queue _random _sha1 _sha256 _sha3 _sha512 _signal _sitebuiltins "
    ++ "_socket _sqlite3 _sre _ssl _stat _statistics _string _strptime _struct _symtable _thread "
    ++ "_threading_local _tokenize _tracemalloc _typing _uuid _warnings _weakref _weakrefset "
    ++ "_zoneinfo abc aifc argparse array ast asynchat asyncore atexit audioop base64 bdb binascii "
    ++ "bisect builtins bz2 cProfile calendar cgi cgitb chunk cmath cmd code codecs codeop "
    ++ "colorsys compileall configparser contextlib contextvars copy copyreg crypt csv dataclasses "
    ++ "datetime decimal difflib dis doctest enum errno faulthandler fcntl filecmp fileinput "
    ++ "fnmatch fractions ftplib functools gc genericpath getopt getpass gettext glob graphlib grp "
    ++ "gzip hashlib heapq hmac imaplib imghdr imp inspect io ipaddress itertools keyword "
    ++ "linecache locale lzma mailbox mailcap marshal math mimetypes mmap modulefinder netrc nis "
    ++ "nntplib ntpath nturl2path numbers opcode operator optparse os pathlib pdb pickle "
    ++ "pickletools pipes pkgutil platform plistlib poplib posix posixpath pprint profile pstats "
    ++ "pty pwd py_compile pyclbr pydoc pyexpat queue quopri random readline reprlib resource "
    ++ "rlcompleter runpy sched secrets select selectors shelve shlex shutil signal site smtpd "
    ++ "smtplib sndhdr socket socketserver spwd sre_compile sre_constants sre_parse ssl stat "
    ++ "statistics string stringprep struct subprocess sunau symtable sys sysconfig syslog "
    ++ "tabnanny tarfile telnetlib tempfile termios textwrap threading time timeit token tokenize "
    ++ "trace traceback tracemalloc tty types typing typing_extensions unicodedata uu uuid "
    ++ "warnings wave weakref webbrowser xdrlib zipapp zipfile zipimport zlib")

/-- The packages, each with the modules in it. -/
def packages : List (String × List String) :=
  [
    ("annotated_types", ""),
    ("asyncio",
      "base_events base_futures base_subprocess base_tasks constants coroutines events "
        ++ "exceptions format_helpers futures locks log mixins proactor_events protocols queues "
        ++ "runners selector_events sslproto staggered streams subprocess taskgroups tasks threads "
        ++ "timeouts transports trsock unix_events windows_events windows_utils"),
    ("click",
      "core decorators exceptions formatting parser testing types utils globals termui "
        ++ "shell_completion"),
    ("collections", "abc"),
    ("concurrent", "futures"),
    ("concurrent.futures", "process thread"),
    ("ctypes", "macholib util wintypes"),
    ("ctypes.macholib", "dyld dylib framework"),
    ("curses", "ascii has_key panel textpad"),
    ("dbm", "dumb gnu ndbm"),
    ("dbobjgen",
      "annotations cli codegen column_spec config dataobject diagnostics exceptions generator "
        ++ "introspect model naming partition synthesizer type_mapper writer"),
    ("dbobjgen.codegen", "emitter nodes"),
    ("distutils", ""),
    ("distutils.command", ""),
    ("email",
      "base64mime charset contentmanager encoders errors feedparser generator header "
        ++ "headerregistry iterators message mime parser policy quoprimime utils"),
    ("email.mime", "application audio base image message multipart nonmultipart text"),
    ("encodings", ""),
    ("ensurepip", ""),
    ("html", "entities parser"),
    ("http", "client cookiejar cookies server"),
    ("importlib", "abc machinery metadata readers resources simple util"),
    ("importlib.metadata", ""),
    ("importlib.resources", "abc readers simple"),
    ("json", "decoder encoder scanner tool"),
    ("logging", "config handlers"),
    ("multiprocessing",
      "connection context dummy forkserver heap managers pool popen_fork popen_forkserver "
        ++ "popen_spawn_posix popen_spawn_win32 process queues reduction resource_sharer "
        ++ "resource_tracker shared_memory sharedctypes spawn synchronize util"),
    ("multiprocessing.dummy", "connection"),
    ("pydantic",
      "fields main types errors config dataclasses json_schema version functional_validators "
        ++ "networks v1"),
    ("pydantic_core", "core_schema"),
    ("pydoc_data", "topics"),
    ("re", ""),
    ("sqlite3", "dbapi2 dump"),
    ("tomllib", ""),
    ("unittest", "async_case case loader main mock result runner signals suite util"),
    ("urllib", "error parse request response robotparser"),
    ("venv", ""),
    ("wsgiref", "handlers headers simple_server types util validate"),
    ("xml", "dom etree parsers sax"),
    ("xml.dom", "NodeFilter domreg expatbuilder minicompat minidom pulldom xmlbuilder"),
    ("xml.etree", "ElementInclude ElementPath ElementTree cElementTree"),
    ("xml.parsers", "expat"),
    ("xml.sax", "expatreader handler saxutils xmlreader"),
    ("xmlrpc", "client server"),
    ("zoneinfo", "")].map fun (name, inner) =>
      (name, if inner = "" then [] else words inner)

end RecordForge.Running
