import PluginReadme.Path

/-!
The configuration of a project: its documents, the labels of their versions, and the files that
carry the version.
-/

namespace PluginReadme

/-- A configuration. -/
structure Config where
  /-- The document that the readme is made from and that declares the version. -/
  readmeMd : Text
  /-- The document that becomes the section on changes. -/
  changelogMd : Text
  /-- Where the readme is written. -/
  readmeTxt : Text
  /-- The label of the version in the document. -/
  stableTag : Text
  /-- The key of the version in style sheets. -/
  versionKey : Text
  styleFiles : List Text
  phpFiles : List Text
  deriving DecidableEq, Repr

namespace Config

/-- The configuration of a project that sets nothing. -/
def standard : Config where
  readmeMd := "README.md".toList
  changelogMd := "CHANGELOG.md".toList
  readmeTxt := "readme.txt".toList
  stableTag := "Stable tag".toList
  versionKey := "Version".toList
  styleFiles := []
  phpFiles := []

/-- The configuration with its paths taken from a directory. -/
def resolve (root : Text) (config : Config) : Config :=
  { config with
    readmeMd := Path.join root config.readmeMd
    changelogMd := Path.join root config.changelogMd
    readmeTxt := Path.join root config.readmeTxt
    styleFiles := config.styleFiles.map (Path.join root)
    phpFiles := config.phpFiles.map (Path.join root) }

/-- The name of the file that holds the configuration. -/
def fileName : Text := "config.json".toList

/-- Where the configuration of a project is, unless another file is named. -/
def path (root : Text) (named : Option Text) : Text := Path.join root (named.getD fileName)

end Config

end PluginReadme
