import Toolsmith.Base64
import Toolsmith.Failure
import Toolsmith.Text.Lines
import Toolsmith.Tool
/-!
# Installers

An installer is a shell script that carries an artifact behind its last command: in base64, between
two lines that mark where it begins and ends.  The script copies what is between the marks, decodes
it and makes the result executable.  `payload` reads back what `script` has written.
-/

namespace Toolsmith.Installer

def beginMark : String := "__PAYLOAD_BEGIN__"

def endMark : String := "__PAYLOAD_END__"

/-- The directory that a program is installed in unless the user names another. -/
def defaultDirectory : String := "$\x7bHOME\x7d/.local/bin"

/-! ## 1. The script -/

/-- The name of the program as the script shows it: a name may hold the marks that stand for the
version and for the directory, and those are filled in. -/
def shownName (name : String) : String :=
  Text.replaceAll "@DEFAULT_INSTALL_DIR@" defaultDirectory
    (Text.replaceAll "@SCHEMACLI_VERSION@" Tool.version name)

def settings (name : String) : List String :=
  ["#!/usr/bin/env sh",
    "#",
    "# Installer for " ++ name ++ ", generated by schemacli " ++ Tool.version ++ ".",
    "#",
    "# Usage:",
    "#   sh " ++ name ++ "-install.sh",
    "#",
    "# Environment variables:",
    "#   INSTALL_DIR  - Installation directory (default: ~/.local/bin)",
    "#   CLI_NAME     - Name for the installed binary (default: " ++ name ++ ")",
    "#",
    "",
    "set -e",
    "",
    "CLI_NAME=\"$\x7bCLI_NAME:-" ++ name ++ "\x7d\"",
    "DEFAULT_INSTALL_DIR=\"" ++ defaultDirectory ++ "\"",
    ""]

def functions : List String :=
  ["info() \x7b",
    "    printf '\\033[0;34m[INFO]\\033[0m %s\\n' \"$1\"",
    "\x7d",
    "",
    "success() \x7b",
    "    printf '\\033[0;32m[OK]\\033[0m %s\\n' \"$1\"",
    "\x7d",
    "",
    "error() \x7b",
    "    printf '\\033[0;31m[ERROR]\\033[0m %s\\n' \"$1\" >&2",
    "\x7d",
    "",
    "warn() \x7b",
    "    printf '\\033[0;33m[WARN]\\033[0m %s\\n' \"$1\"",
    "\x7d",
    "",
    "has_cmd() \x7b",
    "    command -v \"$1\" >/dev/null 2>&1",
    "\x7d",
    "",
    "# decode_base64 <encoded-file>",
    "decode_base64() \x7b",
    "    if has_cmd base64; then",
    "        base64 -d < \"$1\" 2>/dev/null || base64 -D < \"$1\"",
    "    elif has_cmd openssl; then",
    "        openssl base64 -d -in \"$1\"",
    "    else",
    "        error \"No base64 decoder found (need base64 or openssl)\"",
    "        exit 1",
    "    fi",
    "\x7d",
    ""]

def unpacking : List String :=
  ["main() \x7b",
    "    info \"Installing $\x7bCLI_NAME\x7d...\"",
    "",
    "    INSTALL_DIR=\"$\x7bINSTALL_DIR:-$\x7bDEFAULT_INSTALL_DIR\x7d\x7d\"",
    "    TARGET=\"$\x7bINSTALL_DIR\x7d/$\x7bCLI_NAME\x7d\"",
    "",
    "    if [ ! -d \"$\x7bINSTALL_DIR\x7d\" ]; then",
    "        info \"Creating directory: $\x7bINSTALL_DIR\x7d\"",
    "        mkdir -p \"$\x7bINSTALL_DIR\x7d\"",
    "    fi",
    "",
    "    info \"Extracting $\x7bCLI_NAME\x7d to $\x7bTARGET\x7d...\"",
    "    ENCODED=\"$\x7bTARGET\x7d.b64.$$\"",
    "    sed -n '/^__PAYLOAD_BEGIN__$/,/^__PAYLOAD_END__$/p' \"$0\" \\",
    "        | sed '1d;$d' > \"$\x7bENCODED\x7d\"",
    "    if ! decode_base64 \"$\x7bENCODED\x7d\" > \"$\x7bTARGET\x7d\"; then",
    "        rm -f \"$\x7bENCODED\x7d\"",
    "        error \"Could not decode the embedded $\x7bCLI_NAME\x7d payload\"",
    "        exit 1",
    "    fi",
    "    rm -f \"$\x7bENCODED\x7d\"",
    "",
    "    chmod +x \"$\x7bTARGET\x7d\"",
    "    success \"Installed $\x7bCLI_NAME\x7d to $\x7bTARGET\x7d\"",
    ""]

def advice : List String :=
  ["    case \":$\x7bPATH\x7d:\" in",
    "        *\":$\x7bINSTALL_DIR\x7d:\"*)",
    "            success \"$\x7bCLI_NAME\x7d is ready to use!\"",
    "            ;;",
    "        *)",
    "            warn \"$\x7bINSTALL_DIR\x7d is not in your PATH\"",
    "            echo \"\"",
    "            echo \"Add the following to your shell profile (~/.bashrc, ~/.zshrc, etc.):\"",
    "            echo \"\"",
    "            echo \"    export PATH=\\\"\\$\x7bPATH\x7d:$\x7bINSTALL_DIR\x7d\\\"\"",
    "            echo \"\"",
    "            ;;",
    "    esac",
    "",
    "    echo \"\"",
    "    info \"Verifying installation...\"",
    "    \"$\x7bTARGET\x7d\" --version || true",
    "",
    "    echo \"\"",
    "    success \"Installation complete!\"",
    "    echo \"\"",
    "    echo \"Enable shell completions by adding to your shell profile:\"",
    "    echo \"\"",
    "    echo \"    eval \\\"\\$($\x7bCLI_NAME\x7d completion)\\\"          # bash\"",
    "    echo \"    eval \\\"\\$($\x7bCLI_NAME\x7d completion -s zsh)\\\"   # zsh\"",
    "    echo \"\"",
    "\x7d",
    ""]

def call : List String :=
  ["main \"$@\"",
    "exit 0",
    ""]

def header (name : String) : List String :=
  settings (shownName name) ++ functions ++ unpacking ++ advice ++ call

def joined (lines : List String) : String := String.join (lines.map (· ++ "\n"))

def script (payload : List UInt8) (name : String) : String :=
  joined (header name ++ [beginMark]) ++ String.ofList (Base64.encodeLines payload)
    ++ joined [endMark]

/-! ## 2. The payload -/

/-- The lines between the first one that begins a payload and the next one that ends it. -/
def payloadLines? (lines : List String) : Option (List String) :=
  match lines.dropWhile (· ≠ beginMark) with
  | [] => none
  | _ :: rest => if rest.contains endMark then some (rest.takeWhile (· ≠ endMark)) else none

def payload (script : String) : Except Failure (List UInt8) :=
  match payloadLines? (Text.lines script) with
  | none => .error (.schema .noPayload)
  | some lines =>
    let chars := lines.flatMap String.toList
    if chars.any fun c => c.toNat ≥ 128 then .error (.accident .notAscii)
    else
      match Base64.decode chars with
      | .ok bytes => .ok bytes
      | .error fault => .error (.schema (.badPayload fault.text))

end Toolsmith.Installer
