import SheetEditor.Function.Basic

/-!
Contract: the built-in functions.

Owns: their table, grouped by category, and the look-up by name.
-/

namespace SheetEditor

namespace Catalog

/-! ## Entries -/

/-- A parameter that every call has to fill. -/
def required (name description : String) : ParameterInfo :=
  ⟨name.toList, description.toList, false, false⟩

/-- A parameter that a call may leave out. -/
def optional (name description : String) : ParameterInfo :=
  ⟨name.toList, description.toList, true, false⟩

/-- A last parameter for any number of arguments. -/
def repeated (name description : String) : ParameterInfo :=
  ⟨name.toList, description.toList, true, true⟩

def entry (name signature description : String) (category : FunctionCategory)
    (parameters : List ParameterInfo) : FunctionInfo :=
  ⟨name.toList, signature.toList, description.toList, category, parameters⟩

/-! ## The table -/

def mathFunctions : List FunctionInfo := [
  entry "SUM" "SUM(number1, [number2], ...)"
    "Adds all the numbers in a range of cells." .math
    [required "number1" "The first number or range to add.",
      repeated "number2" "Additional numbers or ranges to add."],
  entry "PRODUCT" "PRODUCT(number1, [number2], ...)"
    "Multiplies all the numbers given as arguments." .math
    [required "number1" "The first number or range to multiply.",
      repeated "number2" "Additional numbers or ranges."],
  entry "ABS" "ABS(number)"
    "Returns the absolute value of a number." .math
    [required "number" "The number to get the absolute value of."],
  entry "ROUND" "ROUND(number, num_digits)"
    "Rounds a number to a specified number of digits." .math
    [required "number" "The number to round.",
      required "num_digits" "The number of digits to round to."],
  entry "ROUNDUP" "ROUNDUP(number, num_digits)"
    "Rounds a number up, away from zero." .math
    [required "number" "The number to round up.",
      required "num_digits" "The number of digits to round to."],
  entry "ROUNDDOWN" "ROUNDDOWN(number, num_digits)"
    "Rounds a number down, toward zero." .math
    [required "number" "The number to round down.",
      required "num_digits" "The number of digits to round to."],
  entry "INT" "INT(number)"
    "Rounds a number down to the nearest integer." .math
    [required "number" "The number to round down."],
  entry "MOD" "MOD(number, divisor)"
    "Returns the remainder after division." .math
    [required "number" "The number to divide.",
      required "divisor" "The number to divide by."],
  entry "POWER" "POWER(number, power)"
    "Returns the result of a number raised to a power." .math
    [required "number" "The base number.",
      required "power" "The exponent."],
  entry "SQRT" "SQRT(number)"
    "Returns the square root of a number." .math
    [required "number" "The number to get the square root of."],
  entry "LOG10" "LOG10(number)"
    "Returns the base-10 logarithm of a number." .math
    [required "number" "The positive number to take the logarithm of."],
  entry "SUMPRODUCT" "SUMPRODUCT(array1, [array2], ...)"
    "Multiplies corresponding entries and returns the sum." .math
    [required "array1" "The first array or range.",
      repeated "array2" "Additional arrays of the same size."]]

def statisticalFunctions : List FunctionInfo := [
  entry "AVERAGE" "AVERAGE(number1, [number2], ...)"
    "Returns the average of the arguments." .statistical
    [required "number1" "The first number or range.",
      repeated "number2" "Additional numbers or ranges."],
  entry "MIN" "MIN(number1, [number2], ...)"
    "Returns the smallest value in a set of values." .statistical
    [required "number1" "The first number or range.",
      repeated "number2" "Additional numbers or ranges."],
  entry "MAX" "MAX(number1, [number2], ...)"
    "Returns the largest value in a set of values." .statistical
    [required "number1" "The first number or range.",
      repeated "number2" "Additional numbers or ranges."],
  entry "MEDIAN" "MEDIAN(number1, [number2], ...)"
    "Returns the median of the given numbers." .statistical
    [required "number1" "The first number or range.",
      repeated "number2" "Additional numbers or ranges."],
  entry "COUNT" "COUNT(value1, [value2], ...)"
    "Counts the number of cells that contain numbers." .statistical
    [required "value1" "The first value or range.",
      repeated "value2" "Additional values or ranges."],
  entry "COUNTA" "COUNTA(value1, [value2], ...)"
    "Counts the number of non-empty cells." .statistical
    [required "value1" "The first value or range.",
      repeated "value2" "Additional values or ranges."],
  entry "COUNTBLANK" "COUNTBLANK(range)"
    "Counts empty cells in a range." .statistical
    [required "range" "The range to count blanks in."],
  entry "STDEV" "STDEV(number1, [number2], ...)"
    "Estimates standard deviation based on a sample." .statistical
    [required "number1" "The first number or range.",
      repeated "number2" "Additional numbers or ranges."],
  entry "STDEV.P" "STDEV.P(number1, [number2], ...)"
    "Calculates standard deviation of an entire population." .statistical
    [required "number1" "The first number or range.",
      repeated "number2" "Additional numbers or ranges."]]

def conditionalAggregationFunctions : List FunctionInfo := [
  entry "SUMIF" "SUMIF(range, criteria, [sum_range])"
    "Adds the cells specified by a given condition." .conditional
    [required "range" "The range to evaluate.",
      required "criteria" "The condition to match.",
      optional "sum_range" "The cells to add, if different from range."],
  entry "SUMIFS" "SUMIFS(sum_range, criteria_range1, criteria1, ...)"
    "Adds the cells that meet multiple criteria." .conditional
    [required "sum_range" "The cells to add.",
      required "criteria_range1" "The first range to evaluate.",
      required "criteria1" "The condition for the first range.",
      repeated "criteria_range2" "Additional range/criteria pairs."],
  entry "COUNTIF" "COUNTIF(range, criteria)"
    "Counts cells that meet a condition." .conditional
    [required "range" "The range to count.",
      required "criteria" "The condition to match."],
  entry "COUNTIFS" "COUNTIFS(criteria_range1, criteria1, ...)"
    "Counts cells that meet multiple criteria." .conditional
    [required "criteria_range1" "The first range to evaluate.",
      required "criteria1" "The condition for the first range.",
      repeated "criteria_range2" "Additional range/criteria pairs."],
  entry "AVERAGEIF" "AVERAGEIF(range, criteria, [average_range])"
    "Averages the cells that meet a condition." .conditional
    [required "range" "The range to evaluate.",
      required "criteria" "The condition to match.",
      optional "average_range" "The cells to average."]]

def logicalFunctions : List FunctionInfo := [
  entry "IF" "IF(condition, value_if_true, [value_if_false])"
    "Returns one value if a condition is true and another if false." .logical
    [required "condition" "The condition to test.",
      required "value_if_true" "Value returned when the condition is true.",
      optional "value_if_false" "Value returned when the condition is false."],
  entry "IFERROR" "IFERROR(value, value_if_error)"
    "Returns a fallback value if an expression is an error." .logical
    [required "value" "The value to check for an error.",
      required "value_if_error" "Value returned when value is an error."],
  entry "IFS" "IFS(condition1, value1, ...)"
    "Returns the value for the first true condition." .logical
    [required "condition1" "The first condition.",
      required "value1" "Value when the first condition is true.",
      repeated "condition2" "Additional condition/value pairs."],
  entry "AND" "AND(logical1, [logical2], ...)"
    "Returns TRUE if all arguments are TRUE." .logical
    [required "logical1" "The first condition.",
      repeated "logical2" "Additional conditions."],
  entry "OR" "OR(logical1, [logical2], ...)"
    "Returns TRUE if any argument is TRUE." .logical
    [required "logical1" "The first condition.",
      repeated "logical2" "Additional conditions."],
  entry "NOT" "NOT(logical)"
    "Reverses the logic of its argument." .logical
    [required "logical" "The value to reverse."],
  entry "TRUE" "TRUE()"
    "Returns the logical value TRUE." .logical
    [],
  entry "FALSE" "FALSE()"
    "Returns the logical value FALSE." .logical
    [],
  entry "ISBLANK" "ISBLANK(value)"
    "Returns TRUE if the value is empty." .logical
    [required "value" "The value to test."],
  entry "ISNUMBER" "ISNUMBER(value)"
    "Returns TRUE if the value is a number." .logical
    [required "value" "The value to test."]]

def textFunctions : List FunctionInfo := [
  entry "CONCATENATE" "CONCATENATE(text1, [text2], ...)"
    "Joins several text strings into one." .text
    [required "text1" "The first text item.",
      repeated "text2" "Additional text items."],
  entry "LEFT" "LEFT(text, [num_chars])"
    "Returns the leftmost characters of a text value." .text
    [required "text" "The text to extract from.",
      optional "num_chars" "Number of characters, default 1."],
  entry "RIGHT" "RIGHT(text, [num_chars])"
    "Returns the rightmost characters of a text value." .text
    [required "text" "The text to extract from.",
      optional "num_chars" "Number of characters, default 1."],
  entry "MID" "MID(text, start_num, num_chars)"
    "Returns characters from the middle of a text string." .text
    [required "text" "The text to extract from.",
      required "start_num" "Position of the first character.",
      required "num_chars" "Number of characters."],
  entry "LEN" "LEN(text)"
    "Returns the number of characters in a text string." .text
    [required "text" "The text to measure."],
  entry "TRIM" "TRIM(text)"
    "Removes extra spaces from text." .text
    [required "text" "The text to trim."],
  entry "UPPER" "UPPER(text)"
    "Converts text to uppercase." .text
    [required "text" "The text to convert."],
  entry "LOWER" "LOWER(text)"
    "Converts text to lowercase." .text
    [required "text" "The text to convert."],
  entry "TEXT" "TEXT(value, format_text)"
    "Formats a number as text." .text
    [required "value" "The number to format.",
      required "format_text" "The number format to apply."],
  entry "SUBSTITUTE" "SUBSTITUTE(text, old_text, new_text, [instance_num])"
    "Replaces occurrences of text." .text
    [required "text" "The original text.",
      required "old_text" "The text to replace.",
      required "new_text" "The replacement.",
      optional "instance_num" "Which occurrence to replace."]]

def lookupFunctions : List FunctionInfo := [
  entry "VLOOKUP" "VLOOKUP(lookup_value, table_array, col_index_num, [range_lookup])"
    "Looks up a value in the first column of a table." .lookup
    [required "lookup_value" "The value to search for.",
      required "table_array" "The table to search.",
      required "col_index_num" "Column number to return.",
      optional "range_lookup" "FALSE for an exact match."],
  entry "HLOOKUP" "HLOOKUP(lookup_value, table_array, row_index_num, [range_lookup])"
    "Looks up a value in the first row of a table." .lookup
    [required "lookup_value" "The value to search for.",
      required "table_array" "The table to search.",
      required "row_index_num" "Row number to return.",
      optional "range_lookup" "FALSE for an exact match."],
  entry "XLOOKUP" "XLOOKUP(lookup_value, lookup_array, return_array, [if_not_found])"
    "Searches a range and returns the matching item." .lookup
    [required "lookup_value" "The value to search for.",
      required "lookup_array" "The range to search.",
      required "return_array" "The range to return from.",
      optional "if_not_found" "Value when nothing matches."],
  entry "INDEX" "INDEX(array, row_num, [col_num])"
    "Returns a value at a given position in a range." .lookup
    [required "array" "The range to index.",
      required "row_num" "The row position.",
      optional "col_num" "The column position."],
  entry "MATCH" "MATCH(lookup_value, lookup_array, [match_type])"
    "Returns the position of a value in a range." .lookup
    [required "lookup_value" "The value to find.",
      required "lookup_array" "The range to search.",
      optional "match_type" "1, 0, or -1."]]

def dateTimeFunctions : List FunctionInfo := [
  entry "TODAY" "TODAY()"
    "Returns the current date." .dateTime
    [],
  entry "NOW" "NOW()"
    "Returns the current date and time." .dateTime
    [],
  entry "DATE" "DATE(year, month, day)"
    "Creates a date from year, month and day." .dateTime
    [required "year" "The year.",
      required "month" "The month (1-12).",
      required "day" "The day of the month."],
  entry "YEAR" "YEAR(date)"
    "Returns the year of a date." .dateTime
    [required "date" "The date to extract the year from."],
  entry "MONTH" "MONTH(date)"
    "Returns the month of a date." .dateTime
    [required "date" "The date to extract the month from."],
  entry "DAY" "DAY(date)"
    "Returns the day of the month of a date." .dateTime
    [required "date" "The date to extract the day from."]]

end Catalog

/-- The built-in functions in the order of their table. -/
def Catalog.functions : List FunctionInfo :=
  mathFunctions ++ statisticalFunctions ++ conditionalAggregationFunctions ++
    logicalFunctions ++ textFunctions ++ lookupFunctions ++ dateTimeFunctions

def Catalog.definitions : List FunctionDefinition := Catalog.functions.map (·.definition)

/-- The built-in function of a name, in any letter case. -/
def Catalog.find? (name : Text) : Option FunctionInfo :=
  Catalog.functions.find? fun function => function.name = name.upper

end SheetEditor
