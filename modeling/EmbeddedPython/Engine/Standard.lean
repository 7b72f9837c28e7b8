import EmbeddedPython.Engine.Namespace

/-!
# What every interpreter has

The names that are bound everywhere (`Standard.builtins`), and the modules
that can be imported without any file of the host (`Standard.moduleNames`,
`Standard.packageNames`).  They are found before anything on the search path
that the host extends.
-/

namespace EmbeddedPython.Standard

/-! ## Names -/

/-- The types of exceptions, each with the one it is derived from. -/
def exceptionParents : List (String × String) :=
  [("ArithmeticError", "Exception"), ("AssertionError", "Exception"),
   ("AttributeError", "Exception"), ("BaseExceptionGroup", "BaseException"),
   ("BlockingIOError", "OSError"), ("BrokenPipeError", "ConnectionError"),
   ("BufferError", "Exception"), ("BytesWarning", "Warning"), ("ChildProcessError", "OSError"),
   ("ConnectionAbortedError", "ConnectionError"), ("ConnectionError", "OSError"),
   ("ConnectionRefusedError", "ConnectionError"), ("ConnectionResetError", "ConnectionError"),
   ("DeprecationWarning", "Warning"), ("EOFError", "Exception"), ("EncodingWarning", "Warning"),
   ("Exception", "BaseException"), ("ExceptionGroup", "BaseExceptionGroup"),
   ("FileExistsError", "OSError"), ("FileNotFoundError", "OSError"),
   ("FloatingPointError", "ArithmeticError"), ("FutureWarning", "Warning"),
   ("GeneratorExit", "BaseException"), ("ImportError", "Exception"),
   ("ImportWarning", "Warning"), ("IndentationError", "SyntaxError"),
   ("IndexError", "LookupError"), ("InterruptedError", "OSError"),
   ("IsADirectoryError", "OSError"), ("KeyError", "LookupError"),
   ("KeyboardInterrupt", "BaseException"), ("LookupError", "Exception"),
   ("MemoryError", "Exception"), ("ModuleNotFoundError", "ImportError"),
   ("NameError", "Exception"), ("NotADirectoryError", "OSError"),
   ("NotImplementedError", "RuntimeError"), ("OSError", "Exception"),
   ("OverflowError", "ArithmeticError"), ("PendingDeprecationWarning", "Warning"),
   ("PermissionError", "OSError"), ("ProcessLookupError", "OSError"),
   ("RecursionError", "RuntimeError"), ("ReferenceError", "Exception"),
   ("ResourceWarning", "Warning"), ("RuntimeError", "Exception"), ("RuntimeWarning", "Warning"),
   ("StopAsyncIteration", "Exception"), ("StopIteration", "Exception"),
   ("SyntaxError", "Exception"), ("SyntaxWarning", "Warning"), ("SystemError", "Exception"),
   ("SystemExit", "BaseException"), ("TabError", "IndentationError"),
   ("TimeoutError", "OSError"), ("TypeError", "Exception"), ("UnboundLocalError", "NameError"),
   ("UnicodeDecodeError", "UnicodeError"), ("UnicodeEncodeError", "UnicodeError"),
   ("UnicodeError", "ValueError"), ("UnicodeTranslateError", "UnicodeError"),
   ("UnicodeWarning", "Warning"), ("UserWarning", "Warning"), ("ValueError", "Exception"),
   ("Warning", "Exception"), ("ZeroDivisionError", "ArithmeticError")]

/-- The type that all exceptions are of. -/
def exceptionRoot : String := "BaseException"

/-- The types of exceptions. -/
def exceptionTypes : List String :=
  exceptionRoot :: exceptionParents.map fun t => t.1

/-- Other names of types of exceptions. -/
def otherExceptionNames : List (String × String) :=
  [("EnvironmentError", "OSError"), ("IOError", "OSError")]

/-- The other types. -/
def otherTypes : List String :=
  ["__loader__", "bool", "bytearray", "bytes", "classmethod", "complex", "dict", "enumerate",
   "filter", "float", "frozenset", "int", "list", "map", "memoryview", "object", "property",
   "range", "reversed", "set", "slice", "staticmethod", "str", "super", "tuple", "type", "zip"]

/-- The functions. -/
def functions : List String :=
  ["__build_class__", "__import__", "abs", "aiter", "all", "anext", "any", "ascii", "bin",
   "breakpoint", "callable", "chr", "compile", "delattr", "dir", "divmod", "eval", "exec",
   "format", "getattr", "globals", "hasattr", "hash", "hex", "id", "input", "isinstance",
   "issubclass", "iter", "len", "locals", "max", "min", "next", "oct", "open", "ord", "pow",
   "print", "repr", "round", "setattr", "sorted", "sum", "vars"]

/-- What the interpreter says about the names that are bound everywhere. -/
def summary : String :=
  "\n".intercalate
    ["Built-in functions, types, exceptions, and other objects.", "",
     "This module provides direct access to all 'built-in'",
     "identifiers of Python; for example, builtins.len is",
     "the full name for the built-in function len().", "",
     "This module is not normally accessed explicitly by most",
     "applications, but can be useful in modules that provide",
     "objects with the same name as a built-in value, but in",
     "which the built-in of that name is also needed."]

/-- The names bound to anything else. -/
def otherValues : List (String × Value) :=
  [("Ellipsis", .object "ellipsis"), ("False", .bool false), ("None", .none),
   ("NotImplemented", .object "NotImplementedType"), ("True", .bool true),
   ("__debug__", .bool true), ("__doc__", .str summary), ("__name__", .str "builtins"),
   ("__package__", .str ""), ("__spec__", .object "ModuleSpec"),
   ("copyright", .object "_Printer"), ("credits", .object "_Printer"),
   ("exit", .object "Quitter"), ("help", .object "_Helper"), ("license", .object "_Printer"),
   ("quit", .object "Quitter")]

/-- The names that are bound everywhere. -/
def builtins : Namespace :=
  .ofList
    ((exceptionTypes ++ otherTypes).map (fun name => (name, .type name))
      ++ otherExceptionNames.map (fun (name, type) => (name, .type type))
      ++ functions.map (fun name => (name, .builtin name))
      ++ otherValues)

/-! ## Modules -/

/-- The modules that are no packages. -/
def moduleNames : List String :=
  ["__future__", "__main__", "_abc", "_aix_support", "_ast", "_asyncio", "_bisect", "_blake2",
   "_bootsubprocess", "_bz2", "_codecs", "_codecs_cn", "_codecs_hk", "_codecs_iso2022",
   "_codecs_jp", "_codecs_kr", "_codecs_tw", "_collections", "_collections_abc",
   "_compat_pickle", "_compression", "_contextvars", "_crypt", "_csv", "_ctypes", "_curses",
   "_curses_panel", "_datetime", "_dbm", "_decimal", "_elementtree", "_frozen_importlib",
   "_frozen_importlib_external", "_functools", "_hashlib", "_heapq", "_imp", "_io", "_json",
   "_locale", "_lsprof", "_lzma", "_markupbase", "_md5", "_multibytecodec", "_multiprocessing",
   "_opcode", "_operator", "_osx_support", "_pickle", "_posixshmem", "_posixsubprocess",
   "_py_abc", "_pydecimal", "_pyio", "_queue", "_random", "_sha1", "_sha256", "_sha3",
   "_sha512", "_signal", "_sitebuiltins", "_socket", "_sqlite3", "_sre", "_ssl", "_stat",
   "_statistics", "_string", "_strptime", "_struct", "_symtable", "_thread",
   "_threading_local", "_tkinter", "_tokenize", "_tracemalloc", "_typing", "_uuid",
   "_warnings", "_weakref", "_weakrefset", "_zoneinfo", "abc", "aifc", "antigravity",
   "argparse", "array", "ast", "asynchat", "asyncore", "atexit", "audioop", "base64", "bdb",
   "binascii", "bisect", "bz2", "cProfile", "calendar", "cgi", "cgitb", "chunk", "cmath",
   "cmd", "code", "codecs", "codeop", "collections.abc", "colorsys", "compileall",
   "concurrent.futures.process", "concurrent.futures.thread", "configparser", "contextlib",
   "contextvars", "copy", "copyreg", "crypt", "csv", "dataclasses", "datetime", "decimal",
   "difflib", "dis", "distutils", "doctest", "email.base64mime", "email.charset",
   "email.contentmanager", "email.encoders", "email.errors", "email.feedparser",
   "email.generator", "email.header", "email.headerregistry", "email.iterators",
   "email.message", "email.parser", "email.policy", "email.quoprimime", "email.utils", "enum",
   "errno", "faulthandler", "fcntl", "filecmp", "fileinput", "fnmatch", "fractions", "ftplib",
   "functools", "gc", "genericpath", "getopt", "getpass", "gettext", "glob", "graphlib", "grp",
   "gzip", "hashlib", "heapq", "hmac", "html.entities", "html.parser", "http.client",
   "http.cookiejar", "http.cookies", "http.server", "imaplib", "imghdr", "imp",
   "importlib.abc", "importlib.machinery", "importlib.readers", "importlib.resources.abc",
   "importlib.resources.readers", "importlib.resources.simple", "importlib.simple",
   "importlib.util", "inspect", "io", "ipaddress", "itertools", "json.decoder", "json.encoder",
   "json.scanner", "json.tool", "keyword", "linecache", "locale", "logging.config",
   "logging.handlers", "lzma", "mailbox", "mailcap", "marshal", "math", "mimetypes", "mmap",
   "modulefinder", "multiprocessing.connection", "multiprocessing.context",
   "multiprocessing.forkserver", "multiprocessing.heap", "multiprocessing.managers",
   "multiprocessing.pool", "multiprocessing.popen_fork", "multiprocessing.popen_forkserver",
   "multiprocessing.popen_spawn_posix", "multiprocessing.popen_spawn_win32",
   "multiprocessing.process", "multiprocessing.queues", "multiprocessing.reduction",
   "multiprocessing.resource_sharer", "multiprocessing.resource_tracker",
   "multiprocessing.shared_memory", "multiprocessing.sharedctypes", "multiprocessing.spawn",
   "multiprocessing.synchronize", "multiprocessing.util", "netrc", "nntplib", "ntpath",
   "nturl2path", "numbers", "opcode", "operator", "optparse", "os", "os.path", "ossaudiodev",
   "pathlib", "pdb", "pickle", "pickletools", "pipes", "pkgutil", "platform", "plistlib",
   "poplib", "posix", "posixpath", "pprint", "profile", "pstats", "pty", "pwd", "py_compile",
   "pyclbr", "pydoc", "pyexpat", "queue", "quopri", "random", "readline", "reprlib",
   "resource", "rlcompleter", "runpy", "sched", "secrets", "select", "selectors", "shelve",
   "shlex", "shutil", "signal", "site", "smtpd", "smtplib", "sndhdr", "socket", "socketserver",
   "spwd", "sre_compile", "sre_constants", "sre_parse", "ssl", "stat", "statistics", "string",
   "stringprep", "struct", "subprocess", "sunau", "symtable", "sys", "sysconfig", "syslog",
   "tabnanny", "tarfile", "telnetlib", "tempfile", "termios", "textwrap", "this", "threading",
   "time", "timeit", "token", "tokenize", "trace", "traceback", "tracemalloc", "tty", "turtle",
   "types", "typing", "unicodedata", "unittest.async_case", "unittest.case", "unittest.loader",
   "unittest.main", "unittest.mock", "unittest.result", "unittest.runner", "unittest.signals",
   "unittest.suite", "unittest.util", "urllib.error", "urllib.parse", "urllib.request",
   "urllib.response", "urllib.robotparser", "uu", "uuid", "warnings", "wave", "weakref",
   "webbrowser", "xdrlib", "xml.dom.NodeFilter", "xml.dom.domreg", "xml.dom.expatbuilder",
   "xml.dom.minicompat", "xml.dom.minidom", "xml.dom.pulldom", "xml.dom.xmlbuilder",
   "xml.etree.ElementInclude", "xml.etree.ElementPath", "xml.etree.ElementTree",
   "xml.etree.cElementTree", "xml.parsers.expat", "xml.sax.expatreader", "xml.sax.handler",
   "xml.sax.saxutils", "xml.sax.xmlreader", "zipapp", "zipfile", "zipimport", "zlib"]

/-- The packages. -/
def packageNames : List String :=
  ["asyncio", "collections", "concurrent", "concurrent.futures", "ctypes", "curses", "dbm",
   "email", "email.mime", "encodings", "ensurepip", "html", "http", "idlelib", "importlib",
   "importlib.metadata", "importlib.resources", "json", "lib2to3", "logging",
   "multiprocessing", "multiprocessing.dummy", "pydoc_data", "re", "sqlite3", "tkinter",
   "tomllib", "turtledemo", "unittest", "urllib", "venv", "wsgiref", "xml", "xml.dom",
   "xml.etree", "xml.parsers", "xml.sax", "xmlrpc", "zoneinfo"]

/-- A module that is there without any file of the host. -/
def provides (name : String) : Bool :=
  moduleNames.contains name || packageNames.contains name

end EmbeddedPython.Standard
