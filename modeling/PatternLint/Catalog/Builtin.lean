import PatternLint.Catalog

/-! The built-in catalog of the AUTOSAR C++14 guidelines, chapter by chapter. -/

namespace PatternLint.Builtin

def languageIndependentIssues : Catalog :=
  [
    { code := "A0-1-1"
      severity := "warning"
      category := "0. Language Independent Issues"
      pattern := "\\b\\w+\\s+\\w+\\s*=.*;"
      message :=
        "A project shall not contain instances of non-volatile variables being given values " ++
          "that are not subsequently used"
      description := "Variables assigned values that are never subsequently used"
      rationale := some "Unused assignments waste resources and may indicate logic errors" },
    { code := "A0-1-2"
      severity := "warning"
      category := "0. Language Independent Issues"
      pattern := "^\\s*[a-zA-Z_]\\w*\\s*\\([^)]*\\)\\s*;"
      message := "The value returned by a function having a non-void return type shall be used"
      description := "Return values must be used or explicitly discarded"
      rationale := some "Ignoring return values may miss important information or errors" },
    { code := "A0-1-3"
      severity := "info"
      category := "0. Language Independent Issues"
      pattern := "(?:static|private:)\\s+\\w+\\s+\\w+\\s*\\("
      message :=
        "Every function in anonymous namespace, static function, or private member function " ++
          "shall be used"
      description := "Internal/private functions should be used"
      rationale := some "Unused functions increase code complexity unnecessarily" },
    { code := "A0-1-4"
      severity := "info"
      category := "0. Language Independent Issues"
      pattern := "\\w+\\s+\\w+\\s*\\([^)]*\\w+\\s+\\w+[^)]*\\)"
      message := "There shall be no unused named parameters in non-virtual functions"
      description := "Named parameters should be used (use /* comment */ for unused params)"
      rationale := some "Unused parameters may indicate incomplete implementation" },
    { code := "A0-1-5"
      severity := "info"
      category := "0. Language Independent Issues"
      pattern := "virtual\\s+\\w+\\s+\\w+\\s*\\([^)]*\\w+\\s+\\w+"
      message := "There shall be no unused named parameters in virtual functions"
      description := "Unused virtual function parameters should be unnamed"
      rationale := some "Named but unused parameters are misleading" },
    { code := "A0-1-6"
      severity := "info"
      category := "0. Language Independent Issues"
      pattern := "(?:class|struct|enum)\\s+\\w+\\s*(?:\\\x7b|:)"
      message := "There should be no unused type declarations"
      description := "Declared types should be used"
      rationale := some "Unused types add unnecessary complexity" },
    { code := "A0-4-2"
      severity := "warning"
      category := "0. Language Independent Issues"
      pattern := "\\blong\\s+double\\b"
      message := "Type long double shall not be used"
      description := "long double has implementation-defined behavior"
      rationale := some "long double has implementation-defined range and precision" },
    { code := "A0-4-4"
      severity := "warning"
      category := "0. Language Independent Issues"
      pattern := "\\b(?:sqrt|log|log10|pow|exp|asin|acos|atan|sinh|cosh|tanh)\\s*\\("
      message := "Range, domain and pole errors shall be checked when using math functions"
      description := "Validate math function inputs to prevent domain errors"
      rationale := some "Math errors can cause undefined behavior" },
    { code := "M0-1-1"
      severity := "warning"
      category := "0. Language Independent Issues"
      pattern := "\\b(?:return|throw|break|continue)\\s+[^;]+;\\s*\\w"
      message := "A project shall not contain unreachable code"
      description := "Unreachable code after control flow statement"
      rationale := some "Unreachable code may indicate programming errors"
      remediation := some
        ("Remove statements that can never execute, or restructure the control flow so that " ++
          "every statement is reachable.") },
    { code := "M0-1-2"
      severity := "warning"
      category := "0. Language Independent Issues"
      pattern := "if\\s*\\(\\s*(?:true|false|0|1)\\s*\\)"
      message := "A project shall not contain infeasible paths"
      description := "Constant condition creates infeasible code path"
      rationale := some "Infeasible paths indicate logic errors" },
    { code := "M0-1-3"
      severity := "info"
      category := "0. Language Independent Issues"
      pattern := "\\b\\w+\\s+\\w+\\s*;"
      message := "A project shall not contain unused variables"
      description := "Declared but unused variables"
      rationale := some "Unused variables waste memory" },
    { code := "M0-1-4"
      severity := "info"
      category := "0. Language Independent Issues"
      pattern := "\\b(?:int|float|double|char|bool)\\s+\\w+\\s*="
      message := "A project shall not contain non-volatile POD variables having only one use"
      description := "Single-use POD variables should be avoided"
      rationale := some "Single-use variables add unnecessary complexity" },
    { code := "M0-1-8"
      severity := "warning"
      category := "0. Language Independent Issues"
      pattern := "void\\s+\\w+\\s*\\([^)]*\\)\\s*(?:const)?\\s*\\\x7b"
      message := "All functions with void return type shall have external side effects"
      description := "Void functions must have observable side effects"
      rationale := some "Functions without side effects serve no purpose" },
    { code := "M0-1-9"
      severity := "warning"
      category := "0. Language Independent Issues"
      pattern := "(?:if|while)\\s*\\(\\s*(?:false|0)\\s*\\)\\s*\\\x7b"
      message := "There shall be no dead code"
      description := "Code that can never execute"
      rationale := some "Dead code reduces maintainability" },
    { code := "M0-1-10"
      severity := "info"
      category := "0. Language Independent Issues"
      pattern := "\\w+\\s+\\w+\\s*\\([^)]*\\)\\s*\\\x7b"
      message := "Every defined function should be called at least once"
      description := "Defined but never called functions"
      rationale := some "Uncalled functions are maintenance burden" },
    { code := "M0-2-1"
      severity := "error"
      category := "0. Language Independent Issues"
      pattern := "\\b(?:memcpy|strcpy|strncpy|memmove|wmemmove)\\s*\\("
      message := "An object shall not be assigned to an overlapping object"
      description := "Overlapping memory operations cause undefined behavior"
      rationale := some "Overlapping copies lead to data corruption" },
    { code := "M0-3-2"
      severity := "warning"
      category := "0. Language Independent Issues"
      pattern := "\\w+\\s*\\([^)]*\\);(?!\\s*(?:if|while|for))"
      message :=
        "If a function generates error information, then that error information shall be " ++
          "tested"
      description := "Check function return values for errors"
      rationale := some "Unchecked errors lead to silent failures" }
  ]

def general : Catalog :=
  [
    { code := "A1-1-1"
      severity := "error"
      category := "1. General"
      pattern := "\\b(?:auto_ptr|register)\\b|throw\\s*\\("
      message :=
        "All code shall conform to ISO/IEC 14882:2014 and shall not use deprecated features"
      description := "Use standard C++14, avoid deprecated features"
      rationale := some "Deprecated features may be removed in future standards"
      remediation := some
        ("Drop `register`, replace std::auto_ptr with std::unique_ptr and replace dynamic " ++
          "exception specifications with noexcept.") },
    { code := "A1-1-2"
      severity := "warning"
      category := "1. General"
      pattern := "[^\\x00-\\x7F]"
      message := "A project shall not contain instances of non-standard characters"
      description := "Only standard ASCII characters should be used in source code"
      rationale := some "Non-standard characters may cause portability issues" }
  ]

def lexicalConventions : Catalog :=
  [
    { code := "A2-3-1"
      severity := "warning"
      category := "2. Lexical Conventions"
      pattern := "[^\\x00-\\x7F]"
      message := "Only basic source character set shall be used in source code"
      description := "Use only standard ASCII characters"
      rationale := some "Non-standard characters reduce portability" },
    { code := "A2-5-1"
      severity := "warning"
      category := "2. Lexical Conventions"
      pattern := "\\?\\?[=/'()!<>-]"
      message := "Trigraphs shall not be used"
      description := "Avoid trigraph sequences"
      rationale := some "Trigraphs reduce code readability" },
    { code := "A2-5-2"
      severity := "warning"
      category := "2. Lexical Conventions"
      pattern := "<[%:]|%[>:]"
      message := "Digraphs shall not be used"
      description := "Use standard tokens instead of digraphs"
      rationale := some "Use standard tokens instead of digraphs" },
    { code := "A2-7-3"
      severity := "info"
      category := "2. Lexical Conventions"
      pattern := "^(?!\\s*/(?:/|\\*))\\s*(?:class|struct|enum|void|int|float)\\s+"
      message := "All declarations shall be preceded by documentation"
      description := "Add documentation comments for declarations"
      rationale := some "Documentation improves code maintainability" },
    { code := "A2-10-1"
      severity := "warning"
      category := "2. Lexical Conventions"
      pattern := "\\\x7b[^\x7d]*\\b(\\w+)\\b[^\x7d]*\\b\\1\\b"
      dotMatchesNewline := true
      message := "Identifier in inner scope shall not hide identifier in outer scope"
      description := "Avoid variable shadowing"
      rationale := some "Name hiding can lead to confusion and programming errors" },
    { code := "A2-10-4"
      severity := "warning"
      category := "2. Lexical Conventions"
      pattern := "static\\s+\\w+\\s+(\\w+).*static\\s+\\w+\\s+\\1"
      dotMatchesNewline := true
      message := "Static object/function identifier shall not be reused within namespace"
      description := "Unique names for static entities in namespace"
      rationale := some "Name reuse causes confusion" },
    { code := "A2-10-5"
      severity := "info"
      category := "2. Lexical Conventions"
      pattern := "\\b(?:static|extern)\\s+\\w+\\s+(\\w+)"
      message := "Identifier of function/object with linkage should not be reused"
      description := "Avoid reusing identifier names"
      rationale := some "Unique names improve code clarity" },
    { code := "A2-10-6"
      severity := "warning"
      category := "2. Lexical Conventions"
      pattern := "(?:class|enum)\\s+(\\w+)[^;]*;\\s*\\w+\\s+\\1\\b"
      dotMatchesNewline := true
      message := "Class/enum name shall not be hidden by variable/function/enumerator"
      description := "Type names should not be hidden"
      rationale := some "Name hiding reduces code clarity" },
    { code := "A2-11-1"
      severity := "warning"
      category := "2. Lexical Conventions"
      pattern := "\\bvolatile\\b"
      message := "Volatile keyword shall not be used"
      description := "volatile has limited usefulness and does not guarantee thread safety"
      rationale := some "volatile does not guarantee thread safety" },
    { code := "A2-13-1"
      severity := "warning"
      category := "2. Lexical Conventions"
      pattern := "\\\\(?!['\"\\\\abfnrtv0xuU])"
      message := "Only standard escape sequences shall be used"
      description := "Invalid escape sequence detected"
      rationale := some "Non-standard escape sequences lead to undefined behavior" },
    { code := "A2-13-2"
      severity := "error"
      category := "2. Lexical Conventions"
      pattern := "(?: |L|u8|u|U)\"[^\"]*\"\\s*(?:L|u8|u|U)\""
      message := "String literals with different encoding prefixes shall not be concatenated"
      description := "Do not concatenate strings with different encodings"
      rationale := some "Different encodings cannot be safely concatenated" },
    { code := "A2-13-3"
      severity := "warning"
      category := "2. Lexical Conventions"
      pattern := "\\bwchar_t\\b"
      message := "Type wchar_t shall not be used"
      description := "Use char16_t or char32_t instead of wchar_t"
      rationale := some "Use char16_t or char32_t for portability" },
    { code := "A2-13-4"
      severity := "error"
      category := "2. Lexical Conventions"
      pattern := "\\bchar\\s*\\*\\s*\\w+\\s*=\\s*\""
      message := "String literals shall not be assigned to non-constant pointers"
      description := "Use const char* for string literals"
      rationale := some "Modifying string literals causes undefined behavior" },
    { code := "A2-13-5"
      severity := "info"
      category := "2. Lexical Conventions"
      pattern := "0x[0-9a-f]+"
      message := "Hexadecimal constants should be uppercase"
      description := "Use 0xFF not 0xff"
      rationale := some "Consistency improves readability" },
    { code := "A2-13-6"
      severity := "warning"
      category := "2. Lexical Conventions"
      pattern := "\\\\u[0-9a-fA-F]\x7b4\x7d(?![^\"']*[\"'])"
      message := "Universal character names shall be used only in character/string literals"
      description := "UCNs outside literals reduce portability"
      rationale := some "UCNs in identifiers reduce portability" },
    { code := "M2-10-1"
      severity := "warning"
      category := "2. Lexical Conventions"
      pattern := "\\b[Il1O0]\\w*\\b"
      message := "Different identifiers shall be typographically unambiguous"
      description := "Avoid confusingly similar identifiers"
      rationale := some "Similar identifiers cause confusion" },
    { code := "M2-13-2"
      severity := "warning"
      category := "2. Lexical Conventions"
      pattern := "\\b0[1-7][0-7]*"
      message := "Octal constants (other than zero) shall not be used"
      description := "Octal literals are error-prone"
      rationale := some "Octal notation is easily mistaken for decimal" },
    { code := "M2-13-3"
      severity := "warning"
      category := "2. Lexical Conventions"
      pattern := "0[xX][0-9a-fA-F]+(?![UuLl])"
      message := "A \"U\" suffix shall be applied to unsigned hex/octal literals"
      description := "Add U suffix to unsigned literals"
      rationale := some "Explicit unsigned suffix prevents signedness issues" },
    { code := "M2-13-4"
      severity := "info"
      category := "2. Lexical Conventions"
      pattern := "\\d+[luf]\\b"
      message := "Literal suffixes shall be upper case"
      description := "Use L, U, F (not l, u, f)"
      rationale := some "Lowercase l looks like digit 1" }
  ]

def basicConcepts : Catalog :=
  [
    { code := "A3-1-1"
      severity := "warning"
      category := "3. Basic Concepts"
      pattern := "^(?!#ifndef|#define|#pragma once).*\\bconst\\b.*="
      message := "Header files shall not violate One Definition Rule"
      description := "Use include guards in headers"
      rationale := some "Missing include guards can lead to ODR violations" },
    { code := "A3-1-4"
      severity := "warning"
      category := "3. Basic Concepts"
      pattern := "extern\\s+\\w+\\s+\\w+\\s*\\[\\s*\\]"
      message := "Array with external linkage shall have explicit size"
      description := "Specify array size for external arrays"
      rationale := some "Size information is required for proper usage" },
    { code := "A3-1-5"
      severity := "info"
      category := "3. Basic Concepts"
      pattern := "class\\s+\\w+\\s*\\\x7b[^\x7d]*\\w+\\s+\\w+\\s*\\([^)]*\\)\\s*\\\x7b"
      dotMatchesNewline := true
      message := "Function definition in class only for inline/template functions"
      description := "Define non-inline functions outside class"
      rationale := some "Separating declaration and definition improves modularity" },
    { code := "A3-1-6"
      severity := "info"
      category := "3. Basic Concepts"
      pattern := "\\w+\\s+(?:get|set)\\w+\\s*\\("
      message := "Trivial accessor/mutator functions should be inlined"
      description := "Inline simple getters and setters"
      rationale := some "Inlining trivial functions eliminates call overhead" },
    { code := "A3-3-1"
      severity := "warning"
      category := "3. Basic Concepts"
      pattern := "^(?!static)\\s*\\w+\\s+\\w+\\s*\\("
      message := "Objects/functions with external linkage shall be declared in header"
      description := "Declare external entities in headers"
      rationale := some "Header declarations improve modularity" },
    { code := "A3-3-2"
      severity := "warning"
      category := "3. Basic Concepts"
      pattern := "(?:static|thread_local)\\s+\\w+\\s+\\w+(?!\\s*=\\s*(?:constexpr|\\\x7b))"
      message := "Static and thread-local objects shall be constant-initialized"
      description := "Constant-initialize static objects"
      rationale := some "Constant initialization is deterministic" },
    { code := "A3-8-1"
      severity := "error"
      category := "3. Basic Concepts"
      pattern := "delete\\s+(\\w+);[^\x7d]*\\*\\1"
      dotMatchesNewline := true
      message := "Object shall not be accessed outside of its lifetime"
      description := "Do not use objects after deletion"
      rationale := some "Dangling pointers lead to crashes" },
    { code := "A3-9-1"
      severity := "warning"
      category := "3. Basic Concepts"
      pattern := "\\b(?:short|long|unsigned\\s+int|signed\\s+int)\\b"
      message := "Use fixed width integer types from <cstdint>"
      description := "Use int8_t, int16_t, int32_t, int64_t, uint8_t, etc."
      rationale := some "Fixed-width types ensure portability" },
    { code := "M3-1-2"
      severity := "warning"
      category := "3. Basic Concepts"
      pattern := "\\\x7b\\s*\\w+\\s+\\w+\\s*\\([^)]*\\);"
      message := "Functions shall not be declared at block scope"
      description := "Declare functions at namespace/class scope"
      rationale := some "Block scope declarations are confusing" },
    { code := "M3-2-1"
      severity := "error"
      category := "3. Basic Concepts"
      pattern := "\\w+\\s+(\\w+)\\([^)]*\\);.*\\w+\\s+\\1\\("
      dotMatchesNewline := true
      message := "All declarations shall have compatible types"
      description := "Consistent type declarations"
      rationale := some "Type mismatches cause undefined behavior" },
    { code := "M3-2-2"
      severity := "error"
      category := "3. Basic Concepts"
      pattern := "(?:class|struct)\\s+(\\w+)[^;]*;(?:[^\x7d]*(?:class|struct)\\s+\\1[^;]*;)"
      dotMatchesNewline := true
      message := "One Definition Rule shall not be violated"
      description := "Each entity must have exactly one definition"
      rationale := some "ODR violations cause undefined behavior" },
    { code := "M3-2-3"
      severity := "warning"
      category := "3. Basic Concepts"
      pattern := "\\w+\\s+\\w+\\s*;"
      message := "Type/object/function used in multiple TUs shall be declared in one file"
      description := "Centralize shared declarations"
      rationale := some "Centralized declarations prevent inconsistencies" },
    { code := "M3-2-4"
      severity := "error"
      category := "3. Basic Concepts"
      pattern := "extern\\s+\\w+\\s+(\\w+);[^\x7d]*\\w+\\s+\\1\\s*="
      dotMatchesNewline := true
      message := "Identifier with external linkage shall have exactly one definition"
      description := "One definition per external identifier"
      rationale := some "Multiple definitions violate ODR" },
    { code := "M3-3-2"
      severity := "warning"
      category := "3. Basic Concepts"
      pattern := "static\\s+\\w+\\s+(\\w+)\\([^)]*\\);[^\x7d]*\\w+\\s+\\1\\("
      dotMatchesNewline := true
      message := "Static function re-declarations shall include static specifier"
      description := "Consistent static specifier"
      rationale := some "Consistency prevents linkage errors" },
    { code := "M3-4-1"
      severity := "info"
      category := "3. Basic Concepts"
      pattern := "\\w+\\s+\\w+\\s*[;=]"
      message := "Identifier scope shall be minimized"
      description := "Declare variables in minimal scope"
      rationale := some "Limited scope reduces coupling" },
    { code := "M3-9-1"
      severity := "error"
      category := "3. Basic Concepts"
      pattern := "\\w+\\s+(\\w+)\\([^)]*\\);[^\x7d]*\\w+\\s+\\1\\("
      dotMatchesNewline := true
      message := "Types shall be token-for-token identical in all declarations"
      description := "Exact type matching required"
      rationale := some "Type consistency prevents errors" },
    { code := "M3-9-3"
      severity := "error"
      category := "3. Basic Concepts"
      pattern := "reinterpret_cast<[^>]*>\\s*\\([^)]*(?:float|double)"
      message := "Floating-point bit representations shall not be used"
      description := "Do not manipulate float bits"
      rationale := some "Bit manipulation of floats is undefined behavior" }
  ]

def standardConversions : Catalog :=
  [
    { code := "A4-5-1"
      severity := "warning"
      category := "4. Standard Conversions"
      pattern := "enum\\s+(?:class\\s+)?\\w+[^;]*;[^\x7d]*(?:\\+|-|\\*|/|%|&|\\||\\^|<<|>>) *\\w+"
      dotMatchesNewline := true
      message :=
        "Enum expressions shall not be used with operators other than " ++
          "subscript/assignment/equality/relational"
      description := "Limited operations on enums" },
    { code := "A4-7-1"
      severity := "warning"
      category := "4. Standard Conversions"
      pattern := "\\b(?:int8_t|int16_t|uint8_t|uint16_t)\\s+\\w+\\s*=\\s*\\d\x7b5,\x7d"
      message := "Integer expression shall not lead to data loss"
      description := "Prevent integer overflow/truncation"
      rationale := some "Data loss in conversions leads to incorrect calculations" },
    { code := "A4-10-1"
      severity := "error"
      category := "4. Standard Conversions"
      pattern := "\\b(?:NULL|0)\\s*(?:==|!=|=)\\s*\\w+\\*|^\\s*\\w+\\*\\s*=\\s*(?:NULL|0)"
      message := "Only nullptr literal shall be used as null-pointer-constant"
      description := "Use nullptr instead of NULL or 0" },
    { code := "M4-5-1"
      severity := "warning"
      category := "4. Standard Conversions"
      pattern := "\\bbool\\s+\\w+[^;]*(?:\\+|-|\\*|/|%|\\||&\\||\\^|<<|>>)"
      message := "Bool expressions shall not use operators other than =,&&,||,!,==,!=,&,?:"
      description := "Limited bool operations" },
    { code := "M4-5-3"
      severity := "warning"
      category := "4. Standard Conversions"
      pattern := "\\b(?:char|wchar_t)\\s+\\w+[^;]*(?:\\+|-|\\*|/|%|<<|>>)"
      message := "char/wchar_t expressions limited to =,==,!=,&"
      description := "Limited char operations" },
    { code := "M4-10-1"
      severity := "error"
      category := "4. Standard Conversions"
      pattern := "\\bNULL\\s*(?:\\+|-|\\*|/|%|==|!=|<|>|<=|>=)\\s*\\d"
      message := "NULL shall not be used as integer value"
      description := "NULL is for pointers only" },
    { code := "M4-10-2"
      severity := "error"
      category := "4. Standard Conversions"
      pattern := "\\w+\\*\\s*\\w+\\s*=\\s*0\\s*;"
      message := "Literal zero shall not be used as null-pointer-constant"
      description := "Use nullptr instead of 0" }
  ]

def expressions : Catalog :=
  [
    { code := "A5-0-3"
      severity := "warning"
      category := "5. Expressions"
      pattern := "\\*\\s*\\*\\s*\\*"
      message :=
        "The declaration of objects shall contain no more than two levels of pointer " ++
          "indirection"
      description := "More than two levels of pointer indirection detected"
      rationale := some
        "Excessive pointer indirection reduces code readability and increases error potential" },
    { code := "A5-1-1"
      severity := "info"
      category := "5. Expressions"
      pattern := "=\\s*\\d+\\s*[;,\\)]"
      message :=
        "Literal values shall not be used apart from type initialization, otherwise symbolic " ++
          "names shall be used"
      description := "Magic number detected - consider using named constants"
      rationale := some "Magic numbers reduce code readability and maintainability"
      remediation := some
        "Introduce a named constant (constexpr) for the literal and use the name instead." },
    { code := "A5-2-1"
      severity := "warning"
      category := "5. Expressions"
      pattern := "\\bdynamic_cast\\s*<"
      message := "dynamic_cast should not be used"
      description := "Use of dynamic_cast detected - consider design alternatives"
      rationale := some "dynamic_cast has runtime overhead and may indicate design issues" },
    { code := "A5-2-3"
      severity := "error"
      category := "5. Expressions"
      pattern := "const_cast\\s*<"
      message :=
        "A cast shall not remove any const or volatile qualification from the type of a " ++
          "pointer or reference"
      description := "const_cast detected - removing const qualification is dangerous"
      rationale := some "Removing const can lead to undefined behavior" }
  ]

def statements : Catalog :=
  [
    { code := "A6-5-1"
      severity := "warning"
      category := "6. Statements"
      pattern := "for\\s*\\(\\s*(?:float|double)\\s+"
      message :=
        "A for loop shall contain a single loop-counter which shall not have floating-point " ++
          "type"
      description := "For loop with floating-point counter detected"
      rationale := some
        "Floating-point counters can lead to unexpected behavior due to precision issues" },
    { code := "A6-5-2"
      severity := "warning"
      category := "6. Statements"
      pattern := "for\\s*\\(\\s*;\\s*;\\s*\\)"
      message := "A for loop shall be well-formed"
      description := "Empty for loop detected - use while instead"
      rationale := some "Well-formed loops improve code clarity" },
    { code := "A6-6-1"
      severity := "error"
      category := "6. Statements"
      pattern := "\\bgoto\\b"
      message := "The goto statement shall not be used"
      description := "goto statement detected"
      rationale := some "goto makes control flow hard to follow and defeats structured analysis"
      remediation := some
        ("Replace goto with structured control flow: loops, early returns or RAII-based " ++
          "cleanup.") }
  ]

def declarations : Catalog :=
  [
    { code := "A7-1-1"
      severity := "warning"
      category := "7. Declarations"
      pattern :=
        "\\b(?:int|float|double|char)\\s+(\\w+)\\s*=\\s*[^;]+;(?!\\s*(?:const|constexpr))"
      message := "Constexpr or const specifiers shall be used for immutable data declaration"
      description := "Immutable variable should be declared const or constexpr"
      rationale := some
        ("const/constexpr declarations enable compiler optimizations and prevent accidental " ++
          "modifications") },
    { code := "A7-1-4"
      severity := "info"
      category := "7. Declarations"
      pattern := "\\w+\\s+\\w+\\s*\\([^)]*\\w+\\s+(\\w+)[^)]*\\)\\s*\\\x7b"
      message := "There shall be no unused named parameters in non-virtual functions"
      description := "Function parameter is declared but not used"
      rationale := some "Unused parameters may indicate incomplete implementation"
      remediation := some
        ("Remove the parameter name, or keep it in a comment (`int /* unused */`), when the " ++
          "parameter is intentionally unused.") }
  ]

def declarators : Catalog :=
  [
    { code := "A8-4-7"
      severity := "warning"
      category := "8. Declarators"
      pattern := "void\\s+\\w+\\s*\\(\\s*const\\s+(?:int|char|bool|short|float)\\s*&"
      message := "\"in\" parameters for \"cheap to copy\" types shall be passed by value"
      description := "Small types should be passed by value, not const reference"
      rationale := some "Passing small types by reference adds unnecessary indirection" },
    { code := "A8-4-8"
      severity := "warning"
      category := "8. Declarators"
      pattern := "void\\s+\\w+\\s*\\([^)]*\\w+\\s*&\\s*\\w+[^)]*\\)"
      message := "Output parameters shall not be used"
      description := "Consider returning values instead of using output parameters"
      rationale := some "Return values are clearer and safer than output parameters" }
  ]

def derivedClasses : Catalog :=
  [
    { code := "A10-3-1"
      severity := "warning"
      category := "10. Derived Classes"
      pattern := "virtual\\s+\\w+\\s+\\w+\\s*\\([^)]*\\)\\s*(?!(?:override|final|=\\s*0))"
      message :=
        "Virtual function declaration shall contain exactly one of override, final or " ++
          "pure-specifier"
      description := "Virtual function should be marked with override, final, or pure-specifier"
      rationale := some "Explicit specifiers prevent accidental signature mismatches" }
  ]

def memberAccessControl : Catalog :=
  [
    { code := "A11-0-1"
      severity := "info"
      category := "11. Member Access Control"
      pattern := "struct\\s+\\w+\\s*\\\x7b[^\x7d]*(?:virtual|private|protected)"
      message := "A non-POD type should be defined as class"
      description := "Non-POD types should use class instead of struct"
      rationale := some "Using class for non-POD types makes intent clearer" }
  ]

def specialMemberFunctions : Catalog :=
  [
    { code := "A12-8-6"
      severity := "warning"
      category := "12. Special Member Functions"
      pattern :=
        "class\\s+\\w+[^\x7b]*\\\x7b[^\x7d]*public:[^\x7d]*\\w+\\s*\\(\\s*const\\s+\\w+\\s*&\\s*\\)"
      message :=
        "Copy and move constructors and assignment operators shall be declared protected or " ++
          "private"
      description := "Copy/move operations should not be public in polymorphic classes"
      rationale := some "Public copy/move in base classes can lead to slicing" }
  ]

def overloading : Catalog :=
  [
    { code := "A13-2-1"
      severity := "warning"
      category := "13. Overloading"
      pattern := "operator\\s*=\\s*\\([^)]*\\)\\s*\\\x7b[^\x7d]*(?!return\\s+\\*this)"
      message := "An assignment operator shall return a reference to \"this\""
      description := "Assignment operator must return *this"
      rationale := some "Enables chaining and follows standard conventions" },
    { code := "A13-5-2"
      severity := "warning"
      category := "13. Overloading"
      pattern := "operator\\s+\\w+\\s*\\(\\s*\\)\\s*(?!explicit)"
      message := "All user-defined conversion operators shall be defined explicit"
      description := "Conversion operators should be explicit"
      rationale := some "Prevents unintended implicit conversions" }
  ]

def templates : Catalog :=
  [
    { code := "A14-5-1"
      severity := "warning"
      category := "14. Templates"
      pattern := "template\\s*<[^>]*>\\s*\\w+\\s*\\(\\s*const\\s+\\w+\\s*&"
      message :=
        "A template constructor shall not participate in overload resolution for a copy " ++
          "constructor"
      description := "Template constructor may interfere with copy constructor"
      rationale := some "Prevents unexpected behavior in copy operations" }
  ]

def exceptionHandling : Catalog :=
  [
    { code := "A15-1-1"
      severity := "error"
      category := "15. Exception Handling"
      pattern := "throw\\s+(?!std::)"
      message := "Only instances of types derived from std::exception shall be thrown"
      description := "Only std::exception derived types should be thrown"
      rationale := some "Standard exception hierarchy enables proper exception handling" },
    { code := "A15-3-3"
      severity := "warning"
      category := "15. Exception Handling"
      pattern := "int\\s+main\\s*\\([^)]*\\)\\s*\\\x7b(?!.*catch)"
      message := "Main function and a task main function shall catch at least std::exception"
      description := "Main function should have exception handling"
      rationale := some "Prevents unhandled exceptions from terminating the program" },
    { code := "A15-5-1"
      severity := "info"
      category := "15. Exception Handling"
      pattern := "throw\\s+\\w+Exception\\s*\\(\\s*\"[^\"]*\"\\s*\\)"
      message := "All thrown exceptions should be unique"
      description := "Consider using unique exception types for different errors"
      rationale := some "Unique exceptions enable precise error handling" }
  ]

def preprocessingDirectives : Catalog :=
  [
    { code := "A16-0-1"
      severity := "info"
      category := "16. Preprocessing Directives"
      pattern := "\\w+.*\\n#include"
      message :=
        "#include directives should only be preceded by other preprocessor directives or " ++
          "comments"
      description := "Include directives should be at the beginning of the file"
      rationale := some "Consistent include placement improves readability" },
    { code := "A16-2-1"
      severity := "warning"
      category := "16. Preprocessing Directives"
      pattern := "#define\\s+\\w+\\s+\\d+"
      message := "The pre-processor shall only be used for file inclusion and include guards"
      description := "Avoid using #define for constants - use const or constexpr instead"
      rationale := some "const/constexpr are type-safe and debugger-friendly" }
  ]

def libraryIntroduction : Catalog :=
  [
    { code := "A17-0-1"
      severity := "error"
      category := "17. Library Introduction"
      pattern := "#(?:define|undef)\\s+(?:_|std::)"
      message :=
        "Reserved identifiers, macros and functions shall not be defined, redefined or " ++
          "undefined"
      description := "Do not define/undefine reserved identifiers"
      rationale := some "Redefining reserved identifiers causes undefined behavior" }
  ]

def languageSupportLibrary : Catalog :=
  [
    { code := "A18-1-1"
      severity := "warning"
      category := "18. Language Support Library"
      pattern := "\\b\\w+\\s+\\w+\\s*\\[\\s*\\d*\\s*\\]"
      message := "C-style arrays shall not be used, use std::array or std::vector instead"
      description := "Use std::array or std::vector instead of C-style arrays"
      rationale := some "C-style arrays do not provide size information and are error-prone"
      remediation := some
        ("Replace C-style arrays with std::array or std::vector. Use container.data() when a " ++
          "C API needs a raw pointer.") },
    { code := "A18-1-2"
      severity := "warning"
      category := "18. Language Support Library"
      pattern := "std::vector\\s*<\\s*bool\\s*>"
      message := "The std::vector<bool> specialization shall not be used"
      description := "std::vector<bool> has non-standard behavior"
      rationale := some "vector<bool> is not a container and does not meet container requirements" },
    { code := "A18-5-2"
      severity := "warning"
      category := "18. Language Support Library"
      pattern := "\\b(?:new|delete)\\b"
      message := "Operators new and delete shall not be called explicitly"
      description := "Use smart pointers instead of explicit new/delete"
      rationale := some "Smart pointers prevent memory leaks and manage resources automatically" }
  ]

def diagnosticsLibrary : Catalog :=
  [
    { code := "A19-3-1"
      severity := "warning"
      category := "19. Diagnostics Library"
      pattern := "\\berrno\\b"
      message := "Error handling should be used instead of C-style error handling"
      description := "Use exceptions instead of errno for error handling"
      rationale := some "Exceptions provide better error propagation and handling" }
  ]

def generalUtilitiesLibrary : Catalog :=
  [
    { code := "A20-8-1"
      severity := "error"
      category := "20. General Utilities Library"
      pattern := "unique_ptr.*=.*new"
      message := "An already-owned pointer value shall not be assigned to an unique pointer"
      description := "Do not assign raw pointer to unique_ptr after construction"
      rationale := some "Can lead to double-delete and undefined behavior" }
  ]

def stringsLibrary : Catalog :=
  [
    { code := "A21-8-1"
      severity := "warning"
      category := "21. Strings Library"
      pattern := "(?:isalpha|isdigit|isspace)\\s*\\(\\s*[^)]*"
      message :=
        "Arguments to character-handling functions shall be representable as an unsigned char"
      description := "Character handling functions require unsigned char"
      rationale := some "Prevents undefined behavior with negative char values" }
  ]

def containersLibrary : Catalog :=
  [
    { code := "A23-0-1"
      severity := "warning"
      category := "23. Containers Library"
      pattern := "\\.erase\\s*\\([^)]*\\).*\\*"
      message :=
        "An element of a container shall only be accessed by iterators if the container owns " ++
          "the element"
      description := "Do not dereference iterator after erase"
      rationale := some "Erased iterators are invalidated and cause undefined behavior" }
  ]

def algorithmsLibrary : Catalog :=
  [
    { code := "A25-1-1"
      severity := "warning"
      category := "25. Algorithms Library"
      pattern := "\\[\\s*&\\s*\\][^\x7b]*\\\x7b[^\x7d]*\\w+\\s*="
      message :=
        "Non-static data members or captured values of predicate function objects shall not " ++
          "be modified"
      description := "Lambda predicates should not modify captured variables"
      rationale := some "Modifying predicates can lead to unexpected algorithm behavior" }
  ]

def numericsLibrary : Catalog :=
  [
    { code := "A26-5-1"
      severity := "warning"
      category := "26. Numerics Library"
      pattern := "\\bstd::rand\\s*\\(\\s*\\)"
      message := "Pseudorandom numbers shall not be generated using std::rand()"
      description := "Use <random> library instead of rand()"
      rationale := some "std::rand has poor randomness quality and is not thread-safe" }
  ]

def catalog : Catalog :=
  languageIndependentIssues ++ general ++ lexicalConventions ++ basicConcepts ++
    standardConversions ++ expressions ++ statements ++ declarations ++ declarators ++
    derivedClasses ++ memberAccessControl ++ specialMemberFunctions ++ overloading ++
    templates ++ exceptionHandling ++ preprocessingDirectives ++ libraryIntroduction ++
    languageSupportLibrary ++ diagnosticsLibrary ++ generalUtilitiesLibrary ++
    stringsLibrary ++ containersLibrary ++ algorithmsLibrary ++ numericsLibrary

def registry (options : PatternOptions) : Except RuleError Registry := do
  Registry.ofRules (← catalog.compile options)

end PatternLint.Builtin
