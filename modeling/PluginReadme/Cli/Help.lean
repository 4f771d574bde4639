import PluginReadme.Text.Lines

/-!
The texts that the command line answers requests for help and for the version with.
-/

namespace PluginReadme.Cli

/-- The name of the program and its version. -/
def versionText : Text := "mdwp 0.1.0\n".toList

/-- The short help. -/
def shortHelp : Text := Text.join ['\n'] (([
    "Generate a WordPress plugin readme.txt from markdown and sync plugin versions.",
    "",
    "Usage: mdwp [OPTIONS]",
    "",
    "Options:",
    "  -v, --version          Print the version and exit",
    "  -p, --path <PATH>      Path to the project root directory",
    "  -c, --config <CONFIG>  Config file, relative to the project root. Defaults to `config.json`",
    "      --dry-run          Show what would change without writing any file",
    "      --verbose          Enable verbose output",
    "      --no-color         Disable colored output",
    "  -h, --help             Print help (see more with '--help')",
    ""] : List String).map String.toList)

/-- The long help. -/
def longHelp : Text := Text.join ['\n'] (([
    "mdwp converts a project's README.md and CHANGELOG.md into a WordPress plugin readme.txt, "
      ++ "then copies the README's `Stable tag` version into the configured style and PHP files.",
    "",
    "Settings are read from `config.json` in the project root:",
    "  readmeMdPath, changelogMdPath, readmeTxtPath, stableTagPattern,",
    "  versionReplacementPattern, styleFiles, phpFiles",
    "",
    "Usage: mdwp [OPTIONS]",
    "",
    "Options:",
    "  -v, --version",
    "          Print the version and exit",
    "",
    "  -p, --path <PATH>",
    "          Path to the project root directory",
    "",
    "  -c, --config <CONFIG>",
    "          Config file, relative to the project root. Defaults to `config.json`",
    "",
    "      --dry-run",
    "          Show what would change without writing any file",
    "",
    "      --verbose",
    "          Enable verbose output",
    "",
    "      --no-color",
    "          Disable colored output",
    "",
    "  -h, --help",
    "          Print help (see a summary with '-h')",
    ""] : List String).map String.toList)

end PluginReadme.Cli
