set_option autoImplicit false

namespace DirSchema.CommandLine.Starter

def lines : List String :=
  [ "# This template contains all of the possible sections and their default values",
    "",
    "# Note that all fields that take a path are resolved relative to the directory",
    "# this file is in, every setting can also be overridden on the command line",
    "",
    "# The schemas section selects the DXC schema files that are compiled",
    "[schemas]",
    "# The directory schema files are discovered in",
    "directory = \"schema\"",
    "# Glob patterns, relative to the schema directory, selecting the schema files",
    "# to compile. If empty, every file directly inside the schema directory is",
    "# used, in file name order. Otherwise the matches of each pattern are used in",
    "# the order the patterns are listed",
    "include = [",
    "    #\"core/*.dxc\",",
    "    #\"*.dxc\",",
    "]",
    "# Glob patterns removing schema files that were selected by `include`",
    "exclude = [",
    "    #\"experimental/*\",",
    "]",
    "",
    "# The output section controls what is generated, and where",
    "[output]",
    "# The root directory generated sources are written under",
    "directory = \"src/generated\"",
    "# The dot separated package generated sources are placed in. Entities are",
    "# written to `<directory>/<package as path>/types`, and mappers to",
    "# `<directory>/<package as path>/mappers`",
    "package = \"directory.model\"",
    "# Whether an entity source is generated for each object class",
    "entities = true",
    "# Whether a mapper source is generated for each object class",
    "mappers = true",
    "# Whether previously generated sources are removed before generating",
    "remove-old-output = false",
    "",
    "# The templates section replaces the builtin handlebars templates",
    "[templates]",
    "#entity = \"templates/entity.hbs\"",
    "#mapper = \"templates/mapper.hbs\"" ]

def text : String := String.join (lines.map (· ++ "\n"))

end DirSchema.CommandLine.Starter
