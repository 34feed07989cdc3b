/-!
What the program says about its own use.
-/

namespace ScriptBinding.Command

def programName : String := "gen-js-wrapper"

def usageLine : String :=
  "Usage: gen-js-wrapper symbolsfile.txt classname " ++
    "[--js-class-name output-classname --library-name lib-name]"

def helpText (program : String) : String :=
  let margin := String.ofList (List.replicate (program.length + 8) ' ')
  String.intercalate "\n" [
    "usage: " ++ program ++ " [-h] [--js-class-name JS_CLASS_NAME]",
    margin ++ "[--library-name LIBRARY_NAME]",
    margin ++ "[--header-file HEADER_FILE] [--dont-create-files]",
    margin ++ "[--output-dir OUTPUT_DIR]",
    margin ++ "[symbols_file] [class_name]",
    "",
    "Generate a JerryScript module wrapping a C++ class",
    "",
    "positional arguments:",
    "  symbols_file          Output of objdump --dwarf=info for the binary",
    "  class_name            Native class name, e.g. DigitalOut or Vector<int>",
    "",
    "options:",
    "  -h, --help            show this help message and exit",
    "  --js-class-name JS_CLASS_NAME",
    "                        JavaScript class name (required for generic class",
    "                        names)",
    "  --library-name LIBRARY_NAME",
    "                        Module name (default: lowercased JavaScript class",
    "                        name)",
    "  --header-file HEADER_FILE",
    "                        Header to include in the generated source",
    "  --dont-create-files   Run the generator without writing anything",
    "  --output-dir OUTPUT_DIR",
    "                        Output root (default: output)"]

end ScriptBinding.Command
