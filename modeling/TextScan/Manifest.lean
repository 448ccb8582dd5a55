/-!
# The library's manifest

The version of the library, and the names that it offers to its callers.
-/

namespace TextScan.Manifest

/-- The version. -/
def version : String := "0.1.0"

/-- The names on offer. -/
def exports : List String :=
  ["EngineContractError", "MatchEngine", "MatchResult", "OutOfRangeError", "Pattern",
   "PatternError", "RegexEngine", "ScanConfig", "Scanner", "ScannerError", "SourceLocation",
   "UnknownGroupError", "compile_pattern", "get_scan_config", "reset_scan_config",
   "scan_config_context", "set_scan_config", "__version__"]

end TextScan.Manifest
