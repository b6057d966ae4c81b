import StubClass.Manual.Note

set_option autoImplicit false

/-! # Notes on attributes: texts and bytes -/

namespace StubClass.Manual

/-- What the attributes of texts say of themselves. -/
def strNotes : List Note :=
  [
    ⟨"__format__", "($self, format_spec, /)",
     "Return a formatted version of the string as described by format_spec."⟩,
    ⟨"__sizeof__", "($self, /)", "Return the size of the string in memory, in bytes."⟩,
    ⟨"capitalize", "($self, /)",
     ("Return a capitalized version of the string.\n\nMore specifically, make the first "
      ++ "character have upper case and the rest lower\ncase.")⟩,
    ⟨"casefold", "($self, /)",
     "Return a version of the string suitable for caseless comparisons."⟩,
    ⟨"center", "($self, width, fillchar=' ', /)",
     ("Return a centered string of length width.\n\nPadding is done using the specified "
      ++ "fill character (default is a space).")⟩,
    ⟨"count", none,
     ("S.count(sub[, start[, end]]) -> int\n\nReturn the number of non-overlapping "
      ++ "occurrences of substring sub in\nstring S[start:end].  Optional arguments start "
      ++ "and end are\ninterpreted as in slice notation.")⟩,
    ⟨"encode", "($self, /, encoding='utf-8', errors='strict')",
     ("Encode the string using the codec registered for encoding.\n\n  encoding\n    The "
      ++ "encoding in which to encode the string.\n  errors\n    The error handling scheme "
      ++ "to use for encoding errors.\n    The default is 'strict' meaning that encoding "
      ++ "errors raise a\n    UnicodeEncodeError.  Other possible values are 'ignore', "
      ++ "'replace' and\n    'xmlcharrefreplace' as well as any other name registered with\n"
      ++ "    codecs.register_error that can handle UnicodeEncodeErrors.")⟩,
    ⟨"endswith", none,
     ("S.endswith(suffix[, start[, end]]) -> bool\n\nReturn True if S ends with the "
      ++ "specified suffix, False otherwise.\nWith optional start, test S beginning at that "
      ++ "position.\nWith optional end, stop comparing S at that position.\nsuffix can also "
      ++ "be a tuple of strings to try.")⟩,
    ⟨"expandtabs", "($self, /, tabsize=8)",
     ("Return a copy where all tab characters are expanded using spaces.\n\nIf tabsize is "
      ++ "not given, a tab size of 8 characters is assumed.")⟩,
    ⟨"find", none,
     ("S.find(sub[, start[, end]]) -> int\n\nReturn the lowest index in S where substring "
      ++ "sub is found,\nsuch that sub is contained within S[start:end].  Optional\n"
      ++ "arguments start and end are interpreted as in slice notation.\n\nReturn -1 on "
      ++ "failure.")⟩,
    ⟨"format", none,
     ("S.format(*args, **kwargs) -> str\n\nReturn a formatted version of S, using "
      ++ "substitutions from args and kwargs.\nThe substitutions are identified by braces "
      ++ "('\x7b' and '\x7d').")⟩,
    ⟨"format_map", none,
     ("S.format_map(mapping) -> str\n\nReturn a formatted version of S, using substitutions "
      ++ "from mapping.\nThe substitutions are identified by braces ('\x7b' and '\x7d').")⟩,
    ⟨"index", none,
     ("S.index(sub[, start[, end]]) -> int\n\nReturn the lowest index in S where substring "
      ++ "sub is found,\nsuch that sub is contained within S[start:end].  Optional\n"
      ++ "arguments start and end are interpreted as in slice notation.\n\nRaises "
      ++ "ValueError when the substring is not found.")⟩,
    ⟨"isalnum", "($self, /)",
     ("Return True if the string is an alpha-numeric string, False otherwise.\n\nA string "
      ++ "is alpha-numeric if all characters in the string are alpha-numeric and\nthere is "
      ++ "at least one character in the string.")⟩,
    ⟨"isalpha", "($self, /)",
     ("Return True if the string is an alphabetic string, False otherwise.\n\nA string is "
      ++ "alphabetic if all characters in the string are alphabetic and there\nis at least "
      ++ "one character in the string.")⟩,
    ⟨"isascii", "($self, /)",
     ("Return True if all characters in the string are ASCII, False otherwise.\n\nASCII "
      ++ "characters have code points in the range U+0000-U+007F.\nEmpty string is ASCII "
      ++ "too.")⟩,
    ⟨"isdecimal", "($self, /)",
     ("Return True if the string is a decimal string, False otherwise.\n\nA string is a "
      ++ "decimal string if all characters in the string are decimal and\nthere is at least "
      ++ "one character in the string.")⟩,
    ⟨"isdigit", "($self, /)",
     ("Return True if the string is a digit string, False otherwise.\n\nA string is a digit "
      ++ "string if all characters in the string are digits and there\nis at least one "
      ++ "character in the string.")⟩,
    ⟨"isidentifier", "($self, /)",
     ("Return True if the string is a valid Python identifier, False otherwise.\n\nCall "
      ++ "keyword.iskeyword(s) to test whether string s is a reserved identifier,\nsuch as "
      ++ "\"def\" or \"class\".")⟩,
    ⟨"islower", "($self, /)",
     ("Return True if the string is a lowercase string, False otherwise.\n\nA string is "
      ++ "lowercase if all cased characters in the string are lowercase and\nthere is at "
      ++ "least one cased character in the string.")⟩,
    ⟨"isnumeric", "($self, /)",
     ("Return True if the string is a numeric string, False otherwise.\n\nA string is "
      ++ "numeric if all characters in the string are numeric and there is at\nleast one "
      ++ "character in the string.")⟩,
    ⟨"isprintable", "($self, /)",
     ("Return True if the string is printable, False otherwise.\n\nA string is printable if "
      ++ "all of its characters are considered printable in\nrepr() or if it is empty.")⟩,
    ⟨"isspace", "($self, /)",
     ("Return True if the string is a whitespace string, False otherwise.\n\nA string is "
      ++ "whitespace if all characters in the string are whitespace and there\nis at least "
      ++ "one character in the string.")⟩,
    ⟨"istitle", "($self, /)",
     ("Return True if the string is a title-cased string, False otherwise.\n\nIn a "
      ++ "title-cased string, upper- and title-case characters may only\nfollow uncased "
      ++ "characters and lowercase characters only cased ones.")⟩,
    ⟨"isupper", "($self, /)",
     ("Return True if the string is an uppercase string, False otherwise.\n\nA string is "
      ++ "uppercase if all cased characters in the string are uppercase and\nthere is at "
      ++ "least one cased character in the string.")⟩,
    ⟨"join", "($self, iterable, /)",
     ("Concatenate any number of strings.\n\nThe string whose method is called is inserted "
      ++ "in between each given string.\nThe result is returned as a new string.\n\n"
      ++ "Example: '.'.join(['ab', 'pq', 'rs']) -> 'ab.pq.rs'")⟩,
    ⟨"ljust", "($self, width, fillchar=' ', /)",
     ("Return a left-justified string of length width.\n\nPadding is done using the "
      ++ "specified fill character (default is a space).")⟩,
    ⟨"lower", "($self, /)", "Return a copy of the string converted to lowercase."⟩,
    ⟨"lstrip", "($self, chars=None, /)",
     ("Return a copy of the string with leading whitespace removed.\n\nIf chars is given "
      ++ "and not None, remove characters in chars instead.")⟩,
    ⟨"maketrans", "(x, y=<unrepresentable>, z=<unrepresentable>, /)",
     ("Return a translation table usable for str.translate().\n\nIf there is only one "
      ++ "argument, it must be a dictionary mapping Unicode\nordinals (integers) or "
      ++ "characters to Unicode ordinals, strings or None.\nCharacter keys will be then "
      ++ "converted to ordinals.\nIf there are two arguments, they must be strings of equal "
      ++ "length, and\nin the resulting dictionary, each character in x will be mapped to "
      ++ "the\ncharacter at the same position in y. If there is a third argument, it\nmust "
      ++ "be a string, whose characters will be mapped to None in the result.")⟩,
    ⟨"partition", "($self, sep, /)",
     ("Partition the string into three parts using the given separator.\n\nThis will search "
      ++ "for the separator in the string.  If the separator is found,\nreturns a 3-tuple "
      ++ "containing the part before the separator, the separator\nitself, and the part "
      ++ "after it.\n\nIf the separator is not found, returns a 3-tuple containing the "
      ++ "original string\nand two empty strings.")⟩,
    ⟨"removeprefix", "($self, prefix, /)",
     ("Return a str with the given prefix string removed if present.\n\nIf the string "
      ++ "starts with the prefix string, return string[len(prefix):].\nOtherwise, return a "
      ++ "copy of the original string.")⟩,
    ⟨"removesuffix", "($self, suffix, /)",
     ("Return a str with the given suffix string removed if present.\n\nIf the string ends "
      ++ "with the suffix string and that suffix is not empty,\nreturn "
      ++ "string[:-len(suffix)]. Otherwise, return a copy of the original\nstring.")⟩,
    ⟨"replace", "($self, old, new, count=-1, /)",
     ("Return a copy with all occurrences of substring old replaced by new.\n\n  count\n    "
      ++ "Maximum number of occurrences to replace.\n    -1 (the default value) means "
      ++ "replace all occurrences.\n\nIf the optional argument count is given, only the "
      ++ "first count occurrences are\nreplaced.")⟩,
    ⟨"rfind", none,
     ("S.rfind(sub[, start[, end]]) -> int\n\nReturn the highest index in S where substring "
      ++ "sub is found,\nsuch that sub is contained within S[start:end].  Optional\n"
      ++ "arguments start and end are interpreted as in slice notation.\n\nReturn -1 on "
      ++ "failure.")⟩,
    ⟨"rindex", none,
     ("S.rindex(sub[, start[, end]]) -> int\n\nReturn the highest index in S where "
      ++ "substring sub is found,\nsuch that sub is contained within S[start:end].  Optional"
      ++ "\narguments start and end are interpreted as in slice notation.\n\nRaises "
      ++ "ValueError when the substring is not found.")⟩,
    ⟨"rjust", "($self, width, fillchar=' ', /)",
     ("Return a right-justified string of length width.\n\nPadding is done using the "
      ++ "specified fill character (default is a space).")⟩,
    ⟨"rpartition", "($self, sep, /)",
     ("Partition the string into three parts using the given separator.\n\nThis will search "
      ++ "for the separator in the string, starting at the end. If\nthe separator is found, "
      ++ "returns a 3-tuple containing the part before the\nseparator, the separator "
      ++ "itself, and the part after it.\n\nIf the separator is not found, returns a "
      ++ "3-tuple containing two empty strings\nand the original string.")⟩,
    ⟨"rsplit", "($self, /, sep=None, maxsplit=-1)",
     ("Return a list of the substrings in the string, using sep as the separator string.\n\n"
      ++ "  sep\n    The separator used to split the string.\n\n    When set to None (the "
      ++ "default value), will split on any whitespace\n    character (including \\n \\r "
      ++ "\\t \\f and spaces) and will discard\n    empty strings from the result.\n  "
      ++ "maxsplit\n    Maximum number of splits.\n    -1 (the default value) means no "
      ++ "limit.\n\nSplitting starts at the end of the string and works to the front.")⟩,
    ⟨"rstrip", "($self, chars=None, /)",
     ("Return a copy of the string with trailing whitespace removed.\n\nIf chars is given "
      ++ "and not None, remove characters in chars instead.")⟩,
    ⟨"split", "($self, /, sep=None, maxsplit=-1)",
     ("Return a list of the substrings in the string, using sep as the separator string.\n\n"
      ++ "  sep\n    The separator used to split the string.\n\n    When set to None (the "
      ++ "default value), will split on any whitespace\n    character (including \\n \\r "
      ++ "\\t \\f and spaces) and will discard\n    empty strings from the result.\n  "
      ++ "maxsplit\n    Maximum number of splits.\n    -1 (the default value) means no "
      ++ "limit.\n\nSplitting starts at the front of the string and works to the end.\n\n"
      ++ "Note, str.split() is mainly useful for data that has been intentionally\n"
      ++ "delimited.  With natural text that includes punctuation, consider using\nthe "
      ++ "regular expression module.")⟩,
    ⟨"splitlines", "($self, /, keepends=False)",
     ("Return a list of the lines in the string, breaking at line boundaries.\n\nLine "
      ++ "breaks are not included in the resulting list unless keepends is given and\ntrue.")⟩,
    ⟨"startswith", none,
     ("S.startswith(prefix[, start[, end]]) -> bool\n\nReturn True if S starts with the "
      ++ "specified prefix, False otherwise.\nWith optional start, test S beginning at that "
      ++ "position.\nWith optional end, stop comparing S at that position.\nprefix can also "
      ++ "be a tuple of strings to try.")⟩,
    ⟨"strip", "($self, chars=None, /)",
     ("Return a copy of the string with leading and trailing whitespace removed.\n\nIf "
      ++ "chars is given and not None, remove characters in chars instead.")⟩,
    ⟨"swapcase", "($self, /)",
     "Convert uppercase characters to lowercase and lowercase characters to uppercase."⟩,
    ⟨"title", "($self, /)",
     ("Return a version of the string where each word is titlecased.\n\nMore specifically, "
      ++ "words start with uppercased characters and all remaining\ncased characters have "
      ++ "lower case.")⟩,
    ⟨"translate", "($self, table, /)",
     ("Replace each character in the string using the given translation table.\n\n  table\n "
      ++ "   Translation table, which must be a mapping of Unicode ordinals to\n    Unicode "
      ++ "ordinals, strings, or None.\n\nThe table must implement lookup/indexing via "
      ++ "__getitem__, for instance a\ndictionary or list.  If this operation raises "
      ++ "LookupError, the character is\nleft untouched.  Characters mapped to None are "
      ++ "deleted.")⟩,
    ⟨"upper", "($self, /)", "Return a copy of the string converted to uppercase."⟩,
    ⟨"zfill", "($self, width, /)",
     ("Pad a numeric string with zeros on the left, to fill a field of the given width.\n\n"
      ++ "The string is never truncated.")⟩]

/-- What the attributes of bytes say of themselves. -/
def bytesNotes : List Note :=
  [
    ⟨"__bytes__", "($self, /)", "Convert this value to exact type bytes."⟩,
    ⟨"capitalize", none,
     ("B.capitalize() -> copy of B\n\nReturn a copy of B with only its first character "
      ++ "capitalized (ASCII)\nand the rest lower-cased.")⟩,
    ⟨"center", "($self, width, fillchar=b' ', /)",
     ("Return a centered string of length width.\n\nPadding is done using the specified "
      ++ "fill character.")⟩,
    ⟨"count", none,
     ("B.count(sub[, start[, end]]) -> int\n\nReturn the number of non-overlapping "
      ++ "occurrences of subsection sub in\nbytes B[start:end].  Optional arguments start "
      ++ "and end are interpreted\nas in slice notation.")⟩,
    ⟨"decode", "($self, /, encoding='utf-8', errors='strict')",
     ("Decode the bytes using the codec registered for encoding.\n\n  encoding\n    The "
      ++ "encoding with which to decode the bytes.\n  errors\n    The error handling scheme "
      ++ "to use for the handling of decoding errors.\n    The default is 'strict' meaning "
      ++ "that decoding errors raise a\n    UnicodeDecodeError. Other possible values are "
      ++ "'ignore' and 'replace'\n    as well as any other name registered with "
      ++ "codecs.register_error that\n    can handle UnicodeDecodeErrors.")⟩,
    ⟨"endswith", none,
     ("B.endswith(suffix[, start[, end]]) -> bool\n\nReturn True if B ends with the "
      ++ "specified suffix, False otherwise.\nWith optional start, test B beginning at that "
      ++ "position.\nWith optional end, stop comparing B at that position.\nsuffix can also "
      ++ "be a tuple of bytes to try.")⟩,
    ⟨"expandtabs", "($self, /, tabsize=8)",
     ("Return a copy where all tab characters are expanded using spaces.\n\nIf tabsize is "
      ++ "not given, a tab size of 8 characters is assumed.")⟩,
    ⟨"find", none,
     ("B.find(sub[, start[, end]]) -> int\n\nReturn the lowest index in B where subsection "
      ++ "sub is found,\nsuch that sub is contained within B[start,end].  Optional\n"
      ++ "arguments start and end are interpreted as in slice notation.\n\nReturn -1 on "
      ++ "failure.")⟩,
    ⟨"fromhex", "($type, string, /)",
     ("Create a bytes object from a string of hexadecimal numbers.\n\nSpaces between two "
      ++ "numbers are accepted.\nExample: bytes.fromhex('B9 01EF') -> "
      ++ "b'\\\\xb9\\\\x01\\\\xef'.")⟩,
    ⟨"hex", "($self, /, sep=<unrepresentable>, bytes_per_sep=1)",
     ("Create a string of hexadecimal numbers from a bytes object.\n\n  sep\n    An "
      ++ "optional single character or byte to separate hex bytes.\n  bytes_per_sep\n    "
      ++ "How many bytes between separators.  Positive values count from the\n    right, "
      ++ "negative values count from the left.\n\nExample:\n>>> value = b'\\xb9\\x01\\xef'\n"
      ++ ">>> value.hex()\n'b901ef'\n>>> value.hex(':')\n'b9:01:ef'\n>>> value.hex(':', 2)\n"
      ++ "'b9:01ef'\n>>> value.hex(':', -2)\n'b901:ef'")⟩,
    ⟨"index", none,
     ("B.index(sub[, start[, end]]) -> int\n\nReturn the lowest index in B where subsection "
      ++ "sub is found,\nsuch that sub is contained within B[start,end].  Optional\n"
      ++ "arguments start and end are interpreted as in slice notation.\n\nRaises "
      ++ "ValueError when the subsection is not found.")⟩,
    ⟨"isalnum", none,
     ("B.isalnum() -> bool\n\nReturn True if all characters in B are alphanumeric\nand "
      ++ "there is at least one character in B, False otherwise.")⟩,
    ⟨"isalpha", none,
     ("B.isalpha() -> bool\n\nReturn True if all characters in B are alphabetic\nand there "
      ++ "is at least one character in B, False otherwise.")⟩,
    ⟨"isascii", none,
     ("B.isascii() -> bool\n\nReturn True if B is empty or all characters in B are ASCII,\n"
      ++ "False otherwise.")⟩,
    ⟨"isdigit", none,
     ("B.isdigit() -> bool\n\nReturn True if all characters in B are digits\nand there is "
      ++ "at least one character in B, False otherwise.")⟩,
    ⟨"islower", none,
     ("B.islower() -> bool\n\nReturn True if all cased characters in B are lowercase and "
      ++ "there is\nat least one cased character in B, False otherwise.")⟩,
    ⟨"isspace", none,
     ("B.isspace() -> bool\n\nReturn True if all characters in B are whitespace\nand there "
      ++ "is at least one character in B, False otherwise.")⟩,
    ⟨"istitle", none,
     ("B.istitle() -> bool\n\nReturn True if B is a titlecased string and there is at least "
      ++ "one\ncharacter in B, i.e. uppercase characters may only follow uncased\n"
      ++ "characters and lowercase characters only cased ones. Return False\notherwise.")⟩,
    ⟨"isupper", none,
     ("B.isupper() -> bool\n\nReturn True if all cased characters in B are uppercase and "
      ++ "there is\nat least one cased character in B, False otherwise.")⟩,
    ⟨"join", "($self, iterable_of_bytes, /)",
     ("Concatenate any number of bytes objects.\n\nThe bytes whose method is called is "
      ++ "inserted in between each pair.\n\nThe result is returned as a new bytes object."
      ++ "\n\nExample: b'.'.join([b'ab', b'pq', b'rs']) -> b'ab.pq.rs'.")⟩,
    ⟨"ljust", "($self, width, fillchar=b' ', /)",
     ("Return a left-justified string of length width.\n\nPadding is done using the "
      ++ "specified fill character.")⟩,
    ⟨"lower", none,
     ("B.lower() -> copy of B\n\nReturn a copy of B with all ASCII characters converted to "
      ++ "lowercase.")⟩,
    ⟨"lstrip", "($self, bytes=None, /)",
     ("Strip leading bytes contained in the argument.\n\nIf the argument is omitted or "
      ++ "None, strip leading  ASCII whitespace.")⟩,
    ⟨"maketrans", "(frm, to, /)",
     ("Return a translation table useable for the bytes or bytearray translate method.\n\n"
      ++ "The returned table will be one where each byte in frm is mapped to the byte at\n"
      ++ "the same position in to.\n\nThe bytes objects frm and to must be of the same "
      ++ "length.")⟩,
    ⟨"partition", "($self, sep, /)",
     ("Partition the bytes into three parts using the given separator.\n\nThis will search "
      ++ "for the separator sep in the bytes. If the separator is found,\nreturns a 3-tuple "
      ++ "containing the part before the separator, the separator\nitself, and the part "
      ++ "after it.\n\nIf the separator is not found, returns a 3-tuple containing the "
      ++ "original bytes\nobject and two empty bytes objects.")⟩,
    ⟨"removeprefix", "($self, prefix, /)",
     ("Return a bytes object with the given prefix string removed if present.\n\nIf the "
      ++ "bytes starts with the prefix string, return bytes[len(prefix):].\nOtherwise, "
      ++ "return a copy of the original bytes.")⟩,
    ⟨"removesuffix", "($self, suffix, /)",
     ("Return a bytes object with the given suffix string removed if present.\n\nIf the "
      ++ "bytes ends with the suffix string and that suffix is not empty,\nreturn "
      ++ "bytes[:-len(prefix)].  Otherwise, return a copy of the original\nbytes.")⟩,
    ⟨"replace", "($self, old, new, count=-1, /)",
     ("Return a copy with all occurrences of substring old replaced by new.\n\n  count\n    "
      ++ "Maximum number of occurrences to replace.\n    -1 (the default value) means "
      ++ "replace all occurrences.\n\nIf the optional argument count is given, only the "
      ++ "first count occurrences are\nreplaced.")⟩,
    ⟨"rfind", none,
     ("B.rfind(sub[, start[, end]]) -> int\n\nReturn the highest index in B where "
      ++ "subsection sub is found,\nsuch that sub is contained within B[start,end].  "
      ++ "Optional\narguments start and end are interpreted as in slice notation.\n\nReturn "
      ++ "-1 on failure.")⟩,
    ⟨"rindex", none,
     ("B.rindex(sub[, start[, end]]) -> int\n\nReturn the highest index in B where "
      ++ "subsection sub is found,\nsuch that sub is contained within B[start,end].  "
      ++ "Optional\narguments start and end are interpreted as in slice notation.\n\nRaise "
      ++ "ValueError when the subsection is not found.")⟩,
    ⟨"rjust", "($self, width, fillchar=b' ', /)",
     ("Return a right-justified string of length width.\n\nPadding is done using the "
      ++ "specified fill character.")⟩,
    ⟨"rpartition", "($self, sep, /)",
     ("Partition the bytes into three parts using the given separator.\n\nThis will search "
      ++ "for the separator sep in the bytes, starting at the end. If\nthe separator is "
      ++ "found, returns a 3-tuple containing the part before the\nseparator, the separator "
      ++ "itself, and the part after it.\n\nIf the separator is not found, returns a "
      ++ "3-tuple containing two empty bytes\nobjects and the original bytes object.")⟩,
    ⟨"rsplit", "($self, /, sep=None, maxsplit=-1)",
     ("Return a list of the sections in the bytes, using sep as the delimiter.\n\n  sep\n   "
      ++ " The delimiter according which to split the bytes.\n    None (the default value) "
      ++ "means split on ASCII whitespace characters\n    (space, tab, return, newline, "
      ++ "formfeed, vertical tab).\n  maxsplit\n    Maximum number of splits to do.\n    -1 "
      ++ "(the default value) means no limit.\n\nSplitting is done starting at the end of "
      ++ "the bytes and working to the front.")⟩,
    ⟨"rstrip", "($self, bytes=None, /)",
     ("Strip trailing bytes contained in the argument.\n\nIf the argument is omitted or "
      ++ "None, strip trailing ASCII whitespace.")⟩,
    ⟨"split", "($self, /, sep=None, maxsplit=-1)",
     ("Return a list of the sections in the bytes, using sep as the delimiter.\n\n  sep\n   "
      ++ " The delimiter according which to split the bytes.\n    None (the default value) "
      ++ "means split on ASCII whitespace characters\n    (space, tab, return, newline, "
      ++ "formfeed, vertical tab).\n  maxsplit\n    Maximum number of splits to do.\n    -1 "
      ++ "(the default value) means no limit.")⟩,
    ⟨"splitlines", "($self, /, keepends=False)",
     ("Return a list of the lines in the bytes, breaking at line boundaries.\n\nLine breaks "
      ++ "are not included in the resulting list unless keepends is given and\ntrue.")⟩,
    ⟨"startswith", none,
     ("B.startswith(prefix[, start[, end]]) -> bool\n\nReturn True if B starts with the "
      ++ "specified prefix, False otherwise.\nWith optional start, test B beginning at that "
      ++ "position.\nWith optional end, stop comparing B at that position.\nprefix can also "
      ++ "be a tuple of bytes to try.")⟩,
    ⟨"strip", "($self, bytes=None, /)",
     ("Strip leading and trailing bytes contained in the argument.\n\nIf the argument is "
      ++ "omitted or None, strip leading and trailing ASCII whitespace.")⟩,
    ⟨"swapcase", none,
     ("B.swapcase() -> copy of B\n\nReturn a copy of B with uppercase ASCII characters "
      ++ "converted\nto lowercase ASCII and vice versa.")⟩,
    ⟨"title", none,
     ("B.title() -> copy of B\n\nReturn a titlecased version of B, i.e. ASCII words start "
      ++ "with uppercase\ncharacters, all remaining cased characters have lowercase.")⟩,
    ⟨"translate", "($self, table, /, delete=b'')",
     ("Return a copy with each character mapped by the given translation table.\n\n  table\n"
      ++ "    Translation table, which must be a bytes object of length 256.\n\nAll "
      ++ "characters occurring in the optional argument delete are removed.\nThe remaining "
      ++ "characters are mapped through the given translation table.")⟩,
    ⟨"upper", none,
     ("B.upper() -> copy of B\n\nReturn a copy of B with all ASCII characters converted to "
      ++ "uppercase.")⟩,
    ⟨"zfill", "($self, width, /)",
     ("Pad a numeric string with zeros on the left, to fill a field of the given width.\n\n"
      ++ "The original string is never truncated.")⟩]

end StubClass.Manual
