import RecordForge.Running.TypeTable

/-!
# What modules hold

The names that some modules of the language and the modules for records hold.
-/

namespace RecordForge.Running

/-- The names of modules, without those that every module has. -/
def moduleNames : List (String × List String) :=
  [
    ("abc",
      "ABC ABCMeta __file__ abstractclassmethod abstractmethod abstractproperty "
        ++ "abstractstaticmethod get_cache_token update_abstractmethods"),
    ("collections",
      "ChainMap Counter OrderedDict UserDict UserList UserString __all__ __cached__ "
        ++ "__file__ __path__ defaultdict deque namedtuple"),
    ("collections.abc",
      "AsyncGenerator AsyncIterable AsyncIterator Awaitable ByteString Callable Collection "
        ++ "Container Coroutine Generator Hashable ItemsView Iterable Iterator KeysView Mapping "
        ++ "MappingView MutableMapping MutableSequence MutableSet Reversible Sequence Set Sized "
        ++ "ValuesView __all__ __cached__ __file__"),
    ("contextlib",
      "AbstractAsyncContextManager AbstractContextManager AsyncContextDecorator "
        ++ "AsyncExitStack ContextDecorator ExitStack GenericAlias MethodType __all__ __cached__ "
        ++ "__file__ abc aclosing asynccontextmanager chdir closing contextmanager deque "
        ++ "nullcontext os redirect_stderr redirect_stdout suppress sys wraps"),
    ("copy",
      "Error __all__ __cached__ __file__ copy deepcopy dispatch_table error"),
    ("dataclasses",
      "Field FrozenInstanceError FunctionType GenericAlias InitVar KW_ONLY MISSING __all__ "
        ++ "__cached__ __file__ abc asdict astuple builtins copy dataclass field fields "
        ++ "functools inspect is_dataclass itertools keyword make_dataclass re replace sys types"),
    ("datetime",
      "MAXYEAR MINYEAR UTC __all__ __cached__ __file__ date datetime datetime_CAPI sys time "
        ++ "timedelta timezone tzinfo"),
    ("decimal",
      "BasicContext Clamped Context ConversionSyntax Decimal DecimalException DecimalTuple "
        ++ "DefaultContext DivisionByZero DivisionImpossible DivisionUndefined ExtendedContext "
        ++ "FloatOperation HAVE_CONTEXTVAR HAVE_THREADS Inexact InvalidContext InvalidOperation "
        ++ "MAX_EMAX MAX_PREC MIN_EMIN MIN_ETINY Overflow ROUND_05UP ROUND_CEILING ROUND_DOWN "
        ++ "ROUND_FLOOR ROUND_HALF_DOWN ROUND_HALF_EVEN ROUND_HALF_UP ROUND_UP Rounded Subnormal "
        ++ "Underflow __cached__ __file__ __libmpdec_version__ __version__ getcontext "
        ++ "localcontext setcontext"),
    ("enum",
      "CONFORM CONTINUOUS DynamicClassAttribute EJECT Enum EnumCheck EnumMeta EnumType Flag "
        ++ "FlagBoundary IntEnum IntFlag KEEP MappingProxyType NAMED_FLAGS ReprEnum STRICT "
        ++ "StrEnum UNIQUE __all__ __cached__ __file__ auto bin bltns global_enum "
        ++ "global_enum_repr global_flag_repr global_str member nonmember pickle_by_enum_name "
        ++ "pickle_by_global_name property reduce show_flag_values sys unique verify"),
    ("functools",
      "GenericAlias RLock WRAPPER_ASSIGNMENTS WRAPPER_UPDATES __all__ __cached__ __file__ "
        ++ "cache cached_property cmp_to_key get_cache_token lru_cache namedtuple partial "
        ++ "partialmethod recursive_repr reduce singledispatch singledispatchmethod "
        ++ "total_ordering update_wrapper wraps"),
    ("io",
      "BlockingIOError BufferedIOBase BufferedRWPair BufferedRandom BufferedReader "
        ++ "BufferedWriter BytesIO DEFAULT_BUFFER_SIZE FileIO IOBase IncrementalNewlineDecoder "
        ++ "RawIOBase SEEK_CUR SEEK_END SEEK_SET StringIO TextIOBase TextIOWrapper "
        ++ "UnsupportedOperation __all__ __author__ __file__ __getattr__ abc open open_code "
        ++ "text_encoding"),
    ("itertools",
      "accumulate chain combinations combinations_with_replacement compress count cycle "
        ++ "dropwhile filterfalse groupby islice pairwise permutations product repeat starmap "
        ++ "takewhile tee zip_longest"),
    ("json",
      "JSONDecodeError JSONDecoder JSONEncoder __all__ __author__ __cached__ __file__ "
        ++ "__path__ __version__ codecs decoder detect_encoding dump dumps encoder load loads "
        ++ "scanner"),
    ("logging",
      "BASIC_FORMAT BufferingFormatter CRITICAL DEBUG ERROR FATAL FileHandler Filter "
        ++ "Filterer Formatter GenericAlias Handler INFO LogRecord Logger LoggerAdapter Manager "
        ++ "NOTSET NullHandler PercentStyle PlaceHolder RootLogger StrFormatStyle StreamHandler "
        ++ "StringTemplateStyle Template WARN WARNING __all__ __author__ __cached__ __date__ "
        ++ "__file__ __path__ __status__ __version__ addLevelName atexit basicConfig "
        ++ "captureWarnings collections critical currentframe debug disable error exception "
        ++ "fatal getLevelName getLevelNamesMapping getLogRecordFactory getLogger getLoggerClass "
        ++ "info io lastResort log logMultiprocessing logProcesses logThreads makeLogRecord os "
        ++ "raiseExceptions re root setLogRecordFactory setLoggerClass shutdown sys threading "
        ++ "time traceback warn warning warnings weakref"),
    ("math",
      "acos acosh asin asinh atan atan2 atanh cbrt ceil comb copysign cos cosh degrees dist "
        ++ "e erf erfc exp exp2 expm1 fabs factorial floor fmod frexp fsum gamma gcd hypot inf "
        ++ "isclose isfinite isinf isnan isqrt lcm ldexp lgamma log log10 log1p log2 modf nan "
        ++ "nextafter perm pi pow prod radians remainder sin sinh sqrt tan tanh tau trunc ulp"),
    ("operator",
      "__abs__ __add__ __all__ __and__ __cached__ __call__ __concat__ __contains__ "
        ++ "__delitem__ __eq__ __file__ __floordiv__ __ge__ __getitem__ __gt__ __iadd__ __iand__ "
        ++ "__iconcat__ __ifloordiv__ __ilshift__ __imatmul__ __imod__ __imul__ __index__ "
        ++ "__inv__ __invert__ __ior__ __ipow__ __irshift__ __isub__ __itruediv__ __ixor__ "
        ++ "__le__ __lshift__ __lt__ __matmul__ __mod__ __mul__ __ne__ __neg__ __not__ __or__ "
        ++ "__pos__ __pow__ __rshift__ __setitem__ __sub__ __truediv__ __xor__ abs add and_ "
        ++ "attrgetter call concat contains countOf delitem eq floordiv ge getitem gt iadd iand "
        ++ "iconcat ifloordiv ilshift imatmul imod imul index indexOf inv invert ior ipow "
        ++ "irshift is_ is_not isub itemgetter itruediv ixor le length_hint lshift lt matmul "
        ++ "methodcaller mod mul ne neg not_ or_ pos pow rshift setitem sub truediv truth xor"),
    ("os",
      "CLD_CONTINUED CLD_DUMPED CLD_EXITED CLD_KILLED CLD_STOPPED CLD_TRAPPED DirEntry "
        ++ "EFD_CLOEXEC EFD_NONBLOCK EFD_SEMAPHORE EX_CANTCREAT EX_CONFIG EX_DATAERR EX_IOERR "
        ++ "EX_NOHOST EX_NOINPUT EX_NOPERM EX_NOUSER EX_OK EX_OSERR EX_OSFILE EX_PROTOCOL "
        ++ "EX_SOFTWARE EX_TEMPFAIL EX_UNAVAILABLE EX_USAGE F_LOCK F_OK F_TEST F_TLOCK F_ULOCK "
        ++ "GenericAlias Mapping MutableMapping NGROUPS_MAX O_ACCMODE O_APPEND O_ASYNC O_CLOEXEC "
        ++ "O_CREAT O_DIRECT O_DIRECTORY O_DSYNC O_EXCL O_FSYNC O_LARGEFILE O_NDELAY O_NOATIME "
        ++ "O_NOCTTY O_NOFOLLOW O_NONBLOCK O_PATH O_RDONLY O_RDWR O_RSYNC O_SYNC O_TMPFILE "
        ++ "O_TRUNC O_WRONLY POSIX_FADV_DONTNEED POSIX_FADV_NOREUSE POSIX_FADV_NORMAL "
        ++ "POSIX_FADV_RANDOM POSIX_FADV_SEQUENTIAL POSIX_FADV_WILLNEED POSIX_SPAWN_CLOSE "
        ++ "POSIX_SPAWN_DUP2 POSIX_SPAWN_OPEN PRIO_PGRP PRIO_PROCESS PRIO_USER P_ALL P_NOWAIT "
        ++ "P_NOWAITO P_PGID P_PID P_WAIT PathLike RTLD_DEEPBIND RTLD_GLOBAL RTLD_LAZY "
        ++ "RTLD_LOCAL RTLD_NODELETE RTLD_NOLOAD RTLD_NOW R_OK SCHED_BATCH SCHED_FIFO SCHED_IDLE "
        ++ "SCHED_OTHER SCHED_RESET_ON_FORK SCHED_RR SEEK_CUR SEEK_DATA SEEK_END SEEK_HOLE "
        ++ "SEEK_SET SPLICE_F_MORE SPLICE_F_MOVE SPLICE_F_NONBLOCK ST_APPEND ST_MANDLOCK "
        ++ "ST_NOATIME ST_NODEV ST_NODIRATIME ST_NOEXEC ST_NOSUID ST_RDONLY ST_RELATIME "
        ++ "ST_SYNCHRONOUS ST_WRITE TMP_MAX WCONTINUED WCOREDUMP WEXITED WEXITSTATUS "
        ++ "WIFCONTINUED WIFEXITED WIFSIGNALED WIFSTOPPED WNOHANG WNOWAIT WSTOPPED WSTOPSIG "
        ++ "WTERMSIG WUNTRACED W_OK XATTR_CREATE XATTR_REPLACE XATTR_SIZE_MAX X_OK __all__ "
        ++ "__file__ abc abort access altsep chdir chmod chown chroot close closerange confstr "
        ++ "confstr_names cpu_count ctermid curdir defpath device_encoding devnull dup dup2 "
        ++ "environ environb error eventfd eventfd_read eventfd_write execl execle execlp "
        ++ "execlpe execv execve execvp execvpe extsep fchdir fchmod fchown fdatasync fdopen "
        ++ "fork forkpty fpathconf fsdecode fsencode fspath fstat fstatvfs fsync ftruncate fwalk "
        ++ "get_blocking get_exec_path get_inheritable get_terminal_size getcwd getcwdb getegid "
        ++ "getenv getenvb geteuid getgid getgrouplist getgroups getloadavg getlogin getpgid "
        ++ "getpgrp getpid getppid getpriority getresgid getresuid getsid getuid getxattr "
        ++ "initgroups isatty kill killpg lchown linesep link listdir listxattr lockf login_tty "
        ++ "lseek lstat major makedev makedirs minor mkdir mkfifo mknod name nice open openpty "
        ++ "pardir path pathconf pathconf_names pathsep pipe pipe2 popen posix_fadvise "
        ++ "posix_fallocate posix_spawn posix_spawnp pread preadv putenv pwrite pwritev read "
        ++ "readlink readv register_at_fork remove removedirs removexattr rename renames replace "
        ++ "rmdir scandir sched_get_priority_max sched_get_priority_min sched_getaffinity "
        ++ "sched_getparam sched_getscheduler sched_param sched_rr_get_interval "
        ++ "sched_setaffinity sched_setparam sched_setscheduler sched_yield sendfile sep "
        ++ "set_blocking set_inheritable setegid seteuid setgid setgroups setpgid setpgrp "
        ++ "setpriority setregid setresgid setresuid setreuid setsid setuid setxattr spawnl "
        ++ "spawnle spawnlp spawnlpe spawnv spawnve spawnvp spawnvpe splice st stat stat_result "
        ++ "statvfs statvfs_result strerror supports_bytes_environ supports_dir_fd "
        ++ "supports_effective_ids supports_fd supports_follow_symlinks symlink sync sys sysconf "
        ++ "sysconf_names system tcgetpgrp tcsetpgrp terminal_size times times_result truncate "
        ++ "ttyname umask uname uname_result unlink unsetenv urandom utime wait wait3 wait4 "
        ++ "waitid waitid_result waitpid waitstatus_to_exitcode walk write writev"),
    ("os.path",
      "__all__ __file__ abspath altsep basename commonpath commonprefix curdir defpath "
        ++ "devnull dirname exists expanduser expandvars extsep genericpath getatime getctime "
        ++ "getmtime getsize isabs isdir isfile islink ismount join lexists normcase normpath os "
        ++ "pardir pathsep realpath relpath samefile sameopenfile samestat sep split splitdrive "
        ++ "splitext stat supports_unicode_filenames sys"),
    ("pathlib",
      "EBADF ELOOP ENOENT ENOTDIR Path PosixPath PurePath PurePosixPath PureWindowsPath "
        ++ "S_ISBLK S_ISCHR S_ISDIR S_ISFIFO S_ISLNK S_ISREG S_ISSOCK Sequence WindowsPath "
        ++ "__all__ __cached__ __file__ attrgetter fnmatch functools io ntpath os posixpath re "
        ++ "sys urlquote_from_bytes warnings"),
    ("random",
      "BPF LOG4 NV_MAGICCONST RECIP_BPF Random SG_MAGICCONST SystemRandom TWOPI __all__ "
        ++ "__cached__ __file__ betavariate choice choices expovariate gammavariate gauss "
        ++ "getrandbits getstate lognormvariate normalvariate paretovariate randbytes randint "
        ++ "random randrange sample seed setstate shuffle triangular uniform vonmisesvariate "
        ++ "weibullvariate"),
    ("re",
      "A ASCII DEBUG DOTALL I IGNORECASE L LOCALE M MULTILINE Match NOFLAG Pattern "
        ++ "RegexFlag S Scanner T TEMPLATE U UNICODE VERBOSE X __all__ __cached__ __file__ "
        ++ "__path__ __version__ compile copyreg enum error escape findall finditer fullmatch "
        ++ "functools match purge search split sub subn template"),
    ("string",
      "Formatter Template __all__ __cached__ __file__ ascii_letters ascii_lowercase "
        ++ "ascii_uppercase capwords digits hexdigits octdigits printable punctuation whitespace"),
    ("sys",
      "__breakpointhook__ __displayhook__ __excepthook__ __interactivehook__ __stderr__ "
        ++ "__stdin__ __stdout__ __unraisablehook__ _base_executable _clear_type_cache "
        ++ "_current_exceptions _current_frames _debugmallocstats _framework _getframe "
        ++ "_getquickenedcount _git _home _stdlib_dir _xoptions abiflags addaudithook "
        ++ "api_version argv audit base_exec_prefix base_prefix breakpointhook "
        ++ "builtin_module_names byteorder call_tracing copyright displayhook "
        ++ "dont_write_bytecode exc_info excepthook exception exec_prefix executable exit flags "
        ++ "float_info float_repr_style get_asyncgen_hooks get_coroutine_origin_tracking_depth "
        ++ "get_int_max_str_digits getallocatedblocks getdefaultencoding getdlopenflags "
        ++ "getfilesystemencodeerrors getfilesystemencoding getprofile getrecursionlimit "
        ++ "getrefcount getsizeof getswitchinterval gettrace hash_info hexversion implementation "
        ++ "int_info intern is_finalizing maxsize maxunicode meta_path modules orig_argv path "
        ++ "path_hooks path_importer_cache platform platlibdir prefix pycache_prefix "
        ++ "set_asyncgen_hooks set_coroutine_origin_tracking_depth set_int_max_str_digits "
        ++ "setdlopenflags setprofile setrecursionlimit setswitchinterval settrace stderr stdin "
        ++ "stdlib_module_names stdout thread_info unraisablehook version version_info "
        ++ "warnoptions"),
    ("time",
      "CLOCK_BOOTTIME CLOCK_MONOTONIC CLOCK_MONOTONIC_RAW CLOCK_PROCESS_CPUTIME_ID "
        ++ "CLOCK_REALTIME CLOCK_THREAD_CPUTIME_ID altzone asctime clock_getres clock_gettime "
        ++ "clock_gettime_ns clock_settime clock_settime_ns ctime daylight get_clock_info gmtime "
        ++ "localtime mktime monotonic monotonic_ns perf_counter perf_counter_ns process_time "
        ++ "process_time_ns pthread_getcpuclockid sleep strftime strptime struct_time "
        ++ "thread_time thread_time_ns time time_ns timezone tzname tzset"),
    ("types",
      "AsyncGeneratorType BuiltinFunctionType BuiltinMethodType CellType "
        ++ "ClassMethodDescriptorType CodeType CoroutineType DynamicClassAttribute EllipsisType "
        ++ "FrameType FunctionType GeneratorType GenericAlias GetSetDescriptorType LambdaType "
        ++ "MappingProxyType MemberDescriptorType MethodDescriptorType MethodType "
        ++ "MethodWrapperType ModuleType NoneType NotImplementedType SimpleNamespace "
        ++ "TracebackType UnionType WrapperDescriptorType __all__ __cached__ __file__ coroutine "
        ++ "new_class prepare_class resolve_bases"),
    ("typing",
      "ABCMeta AbstractSet Annotated Any AnyStr AsyncContextManager AsyncGenerator "
        ++ "AsyncIterable AsyncIterator Awaitable BinaryIO ByteString CT_co Callable ChainMap "
        ++ "ClassVar Collection Concatenate Container ContextManager Coroutine Counter "
        ++ "DefaultDict Deque Dict EXCLUDED_ATTRIBUTES Final ForwardRef FrozenSet Generator "
        ++ "Generic GenericAlias Hashable IO ItemsView Iterable Iterator KT KeysView List "
        ++ "Literal LiteralString Mapping MappingView Match MethodDescriptorType "
        ++ "MethodWrapperType MutableMapping MutableSequence MutableSet NamedTuple "
        ++ "NamedTupleMeta Never NewType NoReturn NotRequired Optional OrderedDict ParamSpec "
        ++ "ParamSpecArgs ParamSpecKwargs Pattern Protocol Required Reversible Self Sequence Set "
        ++ "Sized SupportsAbs SupportsBytes SupportsComplex SupportsFloat SupportsIndex "
        ++ "SupportsInt SupportsRound T TYPE_CHECKING T_co T_contra Text TextIO Tuple Type "
        ++ "TypeAlias TypeGuard TypeVar TypeVarTuple TypedDict Union Unpack VT VT_co V_co "
        ++ "ValuesView WrapperDescriptorType __all__ __cached__ __file__ abstractmethod "
        ++ "assert_never assert_type cast clear_overloads collections contextlib "
        ++ "dataclass_transform defaultdict final functools get_args get_origin get_overloads "
        ++ "get_type_hints io is_typeddict no_type_check no_type_check_decorator operator "
        ++ "overload re reveal_type runtime_checkable stdlib_re sys types warnings")].map fun (path, names) =>
    (path, words names)

/-- The names that every module has. -/
def commonModuleNames : List String :=
  words "__builtins__ __doc__ __loader__ __name__ __package__ __spec__ __dict__ __class__"

end RecordForge.Running
