import RuleLexer.Definition

/-!
# Bundled languages

The languages that are known without a rule file. There is one, the Search Processing Language; its
definition has a single state, whose rules are tried from top to bottom.
-/

namespace RuleLexer.Bundled

/-- A pattern for any of the words, as a group. -/
def anyWord (words : List String) : String :=
  "(" ++ "|".intercalate words ++ ")"

def searchCommands : List String :=
  ["abstract", "accum", "addcoltotals", "addinfo", "addtotals", "analyzefields", "anomalies",
   "anomalousvalue", "append", "appendcols", "appendpipe", "arules", "associate", "audit",
   "autoregress", "awsnsalert", "bin", "bucket", "bucketdir", "chart", "cluster", "collect",
   "concurrency", "contingency", "convert", "correlate", "ctable", "datamodel", "datamodelsimple",
   "dbinspect", "dbxquery", "dedup", "delete", "delta", "diff", "entitymerge", "erex", "eval",
   "eventcount", "eventstats", "extract", "fieldformat", "fields", "fieldsummary", "filldown",
   "fillnull", "findtypes", "folderize", "foreach", "format", "from", "fromjson", "gauge",
   "gentimes", "geom", "geomfilter", "geostats", "head", "highlight", "history", "iconify",
   "inputcsv", "inputintelligence", "inputlookup", "iplocation", "join", "kmeans", "kvform",
   "loadjob", "localize", "localop", "lookup", "makecontinuous", "makemv", "makeresults", "map",
   "metadata", "metasearch", "meventcollect", "mpreview", "msearch", "mstats", "multikv",
   "multisearch", "mvcombine", "mvexpand", "mvreverse", "nomv", "outlier", "outputcsv",
   "outputlookup", "outputtext", "overlap", "pivot", "predict", "rangemap", "rare", "regex",
   "reltime", "rename", "replace", "require", "rest", "return", "reverse", "rex", "rtorder", "run",
   "savedsearch", "script", "scrub", "search", "searchtxn", "selfjoin", "sendalert", "sendemail",
   "set", "setfields", "sichart", "sirare", "sistats", "sitimechart", "sitop", "snowincident",
   "snowincidentstream", "snowevent", "snoweventstream", "sort", "spath", "stats", "strcat",
   "streamstats", "table", "tags", "tail", "timechart", "timewrap", "tojson", "top", "transaction",
   "transpose", "trendline", "tscollect", "tstats", "typeahead", "typelearner", "typer", "union",
   "uniq", "untable", "walklex", "where", "x11", "xmlkv", "xmlunescape", "xpath", "xyseries"]

/-- Functions of expressions. -/
def evalFunctions : List String :=
  ["abs", "acos", "acosh", "asin", "asinh", "atan", "atan2", "atanh", "case", "cidrmatch",
   "ceiling", "coalesce", "commands", "cos", "cosh", "exact", "exp", "floor", "hypot", "if", "in",
   "isbool", "isint", "isnotnull", "isnull", "isnum", "isstr", "len", "like", "ln", "log", "lower",
   "ltrim", "match", "max", "md5", "min", "mvappend", "mvcount", "mvdedup", "mvfilter", "mvfind",
   "mvindex", "mvjoin", "mvrange", "mvsort", "mvzip", "now", "null", "nullif", "pi", "pow",
   "printf", "random", "relative_time", "replace", "round", "rtrim", "searchmatch", "sha1",
   "sha256", "sha512", "sigfig", "sin", "sinh", "spath", "split", "sqrt", "strftime", "strptime",
   "substr", "tan", "tanh", "time", "tonumber", "tostring", "trim", "typeof", "upper", "urldecode",
   "validate"]

/-- Functions of statistics and charts. -/
def statsFunctions : List String :=
  ["avg", "count", "distinct_count", "earliest", "earliest_time", "estdc", "estdc_error",
   "exactperc", "first", "last", "latest", "latest_time", "list", "max", "mean", "median", "min",
   "mode", "perc", "per_day", "per_hour", "per_minute", "per_second", "range", "rate", "rate_avg",
   "rate_sum", "stdev", "stdevp", "sum", "sumsq", "var", "varp"]

def internalCommands : List String :=
  ["collapse", "dump", "findkeywords", "makejson", "mcatalog", "noop", "prjob", "redistribute",
   "runshelscript"]

def clauseKeywords : List String :=
  ["as", "by", "or", "and", "over", "where", "output", "outputnew"]

/-- Constants and the negation operator. -/
def constants : List String :=
  ["NOT", "true", "false"]

/-- The rules of the Search Processing Language. -/
def splRules : List RuleDef :=
  [{ pattern := anyWord searchCommands ++ "\\b", category := .keyword },
   { pattern := "\\b" ++ anyWord evalFunctions ++ "\\b\\(",
     category := .functionName, consumes := false },
   { pattern := "\\b" ++ anyWord statsFunctions ++ "\\b\\(",
     category := .functionName, consumes := false },
   { pattern := "\\b" ++ anyWord internalCommands ++ "\\b", category := .keyword },
   { pattern := "(`\\w+)[(`]", category := .functionName, consumes := false },
   { pattern := "\\b\\d+\\b", category := .number },
   { pattern := "\\\\\\||\\\\\\*|\\\\=|\\\\", category := .stringEscape },
   { pattern := "[|,()]", category := .operator },
   { pattern := "\\b" ++ anyWord clauseKeywords ++ "\\b", category := .keyword },
   { pattern := "\\b" ++ anyWord constants ++ "\\b", category := .keywordConstant },
   { pattern := "([^()\",=\\s]+)[),]",
     category := .variable, consumes := false, lookbehind := some "[(,\\s]" },
   { pattern := "([\\w.]+\\s*)=", category := .variable, consumes := false },
   { pattern := "=", category := .operator },
   { pattern := "\"(\\\\\\\\|\\\\\"|[^\"])*\"", category := .stringDouble },
   { pattern := "\\x27(\\\\\\\\|\\\\\\x27|[^\\x27])*\\x27", category := .stringSingle },
   { pattern := "```[\\s\\S]*?```", category := .commentMultiline },
   { pattern := "\\s+", category := .plainText }]

/-- The Search Processing Language. -/
def spl : Definition :=
  { header :=
      { name := "Splunk SPL", aliases := ["spl"], filenames := ["*.spl", "*.splunk"] } : Definition
  }.addRules "root" splRules

/-- Every bundled language, in the order in which they are looked up. -/
def all : List Definition := [spl]

/-- The first language with an alias. -/
def findByAlias? (name : String) : Option Definition :=
  all.find? (·.header.matchesAlias name)

/-- The first language for files with the name at the end of a path. -/
def findForFilename? (path : String) : Option Definition :=
  all.find? (·.header.matchesFilename path)

end RuleLexer.Bundled
