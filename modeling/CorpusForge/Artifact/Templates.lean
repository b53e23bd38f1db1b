import CorpusForge.Text.Search

/-!
# Bundled templates

The templates that artifacts are rendered from when a run brings none of its own, by file name.
-/

namespace CorpusForge.Template

/-- The project file of a C# application. -/
def csproj : String := Text.unlines
  ["<Project Sdk=\"Microsoft.NET.Sdk\">",
   "",
   "  <PropertyGroup>",
   "    <OutputType>Exe</OutputType>",
   "    <TargetFramework>net8.0</TargetFramework>",
   "    <AssemblyName>\x7b\x7brepoName\x7d\x7d</AssemblyName>",
   "    <Nullable>enable</Nullable>",
   "  </PropertyGroup>",
   "",
   "</Project>"]

/-- The package file of a Rust crate. -/
def cargo : String := Text.unlines
  ["[package]",
   "name = \"\x7b\x7brepoName\x7d\x7d\"",
   "version = \"1.0.0\"",
   "edition = \"2021\"",
   "",
   "[dependencies]",
   "tokio = \x7b version = \"1.25\", features = [\"full\"] \x7d",
   "serde = \x7b version = \"1.0\", features = [\"derive\"] \x7d",
   "chrono = \"0.4\""]

/-- The container of an application that runs on Node. -/
def dockerfileNode : String := Text.unlines
  ["FROM node:20-alpine",
   "WORKDIR /app",
   "COPY package*.json ./",
   "RUN npm install",
   "COPY . .",
   "CMD [\"npm\", \"start\"]"]

/-- The container of a Python application. -/
def dockerfilePython : String := Text.unlines
  ["FROM python:3.11-slim",
   "WORKDIR /app",
   "COPY requirements.txt .",
   "RUN pip install -r requirements.txt",
   "COPY . .",
   "CMD [\"python\", \"src/main.py\"]"]

/-- The dependencies of a Ruby application. -/
def gemfile : String := Text.unlines
  ["source 'https://rubygems.org'",
   "",
   "gem 'rails', '~> 7.0'",
   "gem 'pg', '~> 1.4'",
   "",
   "group :development, :test do",
   "  gem 'rspec-rails', '~> 6.0'",
   "end"]

/-- The terms of use. -/
def license : String := Text.unlines
  ["MIT License",
   "",
   "Copyright (c) \x7b\x7byear\x7d\x7d \x7b\x7brepoName\x7d\x7d contributors",
   "",
   "Permission is hereby granted, free of charge, to any person obtaining a copy",
   "of this software and associated documentation files (the \"Software\"), to deal",
   "in the Software without restriction, including without limitation the rights",
   "to use, copy, modify, merge, publish, distribute, sublicense, and/or sell",
   "copies of the Software, and to permit persons to whom the Software is",
   "furnished to do so, subject to the following conditions:",
   "",
   "The above copyright notice and this permission notice shall be included in all",
   "copies or substantial portions of the Software.",
   "",
   "THE SOFTWARE IS PROVIDED \"AS IS\", WITHOUT WARRANTY OF ANY KIND, EXPRESS OR",
   "IMPLIED, INCLUDING BUT NOT LIMITED TO THE WARRANTIES OF MERCHANTABILITY,",
   "FITNESS FOR A PARTICULAR PURPOSE AND NONINFRINGEMENT. IN NO EVENT SHALL THE",
   "AUTHORS OR COPYRIGHT HOLDERS BE LIABLE FOR ANY CLAIM, DAMAGES OR OTHER",
   "LIABILITY, WHETHER IN AN ACTION OF CONTRACT, TORT OR OTHERWISE, ARISING FROM,",
   "OUT OF OR IN CONNECTION WITH THE SOFTWARE OR THE USE OR OTHER DEALINGS IN THE",
   "SOFTWARE."]

/-- The introduction of a repository. -/
def readme : String := Text.unlines
  ["# \x7b\x7brepoName\x7d\x7d",
   "",
   "\x7b\x7btemplate\x7d\x7d implementation written in \x7b\x7blanguageLabel\x7d\x7d.",
   "",
   "## Features",
   "",
   "- Modular \x7b\x7barchetype\x7d\x7d layout",
   "- Automated tests",
   "- Continuous integration",
   "",
   "## Installation",
   "",
   "```bash",
   "\x7b\x7binstallCommand\x7d\x7d",
   "```",
   "",
   "## Testing",
   "",
   "```bash",
   "\x7b\x7btestCommand\x7d\x7d",
   "```",
   "",
   "## Size",
   "",
   "Roughly \x7b\x7btargetLines\x7d\x7d lines of code across the project.",
   "",
   "## License",
   "",
   "MIT"]

/-- The jobs of continuous integration. -/
def ci : String := Text.unlines
  ["name: CI",
   "",
   "on: [push, pull_request]",
   "",
   "jobs:",
   "  test:",
   "    runs-on: ubuntu-latest",
   "    steps:",
   "      - uses: actions/checkout@v4",
   "      - name: Install dependencies",
   "        run: \x7b\x7binstallCommand\x7d\x7d",
   "      - name: Run tests",
   "        run: \x7b\x7btestCommand\x7d\x7d",
   "",
   "  build:",
   "    runs-on: ubuntu-latest",
   "    needs: test",
   "    steps:",
   "      - uses: actions/checkout@v4",
   "      - name: Build",
   "        run: \x7b\x7bbuildCommand\x7d\x7d"]

/-- The package file of a PHP project. -/
def composer : String := Text.unlines
  ["\x7b",
   "  \"name\": \"example/\x7b\x7brepoName\x7d\x7d\",",
   "  \"description\": \"\x7b\x7btemplate\x7d\x7d project\",",
   "  \"type\": \"project\",",
   "  \"require\": \x7b",
   "    \"php\": \">=8.1\",",
   "    \"guzzlehttp/guzzle\": \"^7.5\"",
   "  \x7d,",
   "  \"require-dev\": \x7b",
   "    \"phpunit/phpunit\": \"^10.0\"",
   "  \x7d,",
   "  \"scripts\": \x7b",
   "    \"test\": \"phpunit\"",
   "  \x7d",
   "\x7d"]

/-- The containers of a development set-up. -/
def compose : String := Text.unlines
  ["version: '3.8'",
   "services:",
   "  app:",
   "    build: .",
   "    ports:",
   "      - \"8000:8000\"",
   "    environment:",
   "      - DATABASE_URL=postgresql://app:app@db:5432/\x7b\x7bdatabaseName\x7d\x7d",
   "  db:",
   "    image: postgres:15",
   "    environment:",
   "      - POSTGRES_USER=app",
   "      - POSTGRES_PASSWORD=app",
   "      - POSTGRES_DB=\x7b\x7bdatabaseName\x7d\x7d"]

/-- The files that are left out of the history. -/
def gitignore : String := Text.unlines
  ["# Dependencies",
   "node_modules/",
   "vendor/",
   "__pycache__/",
   "*.pyc",
   "target/",
   "",
   "# Build",
   "dist/",
   "build/",
   "bin/",
   "obj/",
   "*.so",
   "*.exe",
   "",
   "# IDE",
   ".vscode/",
   ".idea/",
   "*.swp",
   "",
   "# Environment",
   ".env",
   ".env.local",
   "",
   "# Logs",
   "*.log",
   "logs/"]

/-- The module file of a Go program. -/
def goModule : String := Text.unlines
  ["module github.com/example/\x7b\x7brepoName\x7d\x7d",
   "",
   "go 1.21",
   "",
   "require (",
   "    github.com/gin-gonic/gin v1.9.0",
   "    github.com/stretchr/testify v1.8.1",
   ")"]

/-- The deployment of an application. -/
def deployment : String := Text.unlines
  ["apiVersion: apps/v1",
   "kind: Deployment",
   "metadata:",
   "  name: \x7b\x7brepoName\x7d\x7d",
   "spec:",
   "  replicas: 3",
   "  selector:",
   "    matchLabels:",
   "      app: \x7b\x7brepoName\x7d\x7d",
   "  template:",
   "    metadata:",
   "      labels:",
   "        app: \x7b\x7brepoName\x7d\x7d",
   "    spec:",
   "      containers:",
   "      - name: app",
   "        image: \x7b\x7brepoName\x7d\x7d:latest",
   "        ports:",
   "        - containerPort: 8000"]

/-- The service in front of a deployment. -/
def service : String := Text.unlines
  ["apiVersion: v1",
   "kind: Service",
   "metadata:",
   "  name: \x7b\x7brepoName\x7d\x7d",
   "spec:",
   "  selector:",
   "    app: \x7b\x7brepoName\x7d\x7d",
   "  ports:",
   "  - port: 80",
   "    targetPort: 8000",
   "  type: LoadBalancer"]

/-- The machines of an application. -/
def terraform : String := Text.unlines
  ["terraform \x7b",
   "  required_version = \">= 1.0\"",
   "\x7d",
   "",
   "provider \"aws\" \x7b",
   "  region = \"us-west-2\"",
   "\x7d",
   "",
   "resource \"aws_instance\" \"app\" \x7b",
   "  ami           = \"ami-00000000000000000\"",
   "  instance_type = \"t3.micro\"",
   "",
   "  tags = \x7b",
   "    Name = \"\x7b\x7brepoName\x7d\x7d\"",
   "  \x7d",
   "\x7d"]

/-- One step of a database schema. -/
def migration : String := Text.unlines
  ["-- Migration \x7b\x7bmigrationId\x7d\x7d: create \x7b\x7btable\x7d\x7d table",
   "CREATE TABLE \x7b\x7btable\x7d\x7d (",
   "    id SERIAL PRIMARY KEY,",
   "    name VARCHAR(255) NOT NULL,",
   "    email VARCHAR(255) UNIQUE,",
   "    created_at TIMESTAMP DEFAULT NOW()",
   ");",
   "",
   "CREATE INDEX idx_\x7b\x7btable\x7d\x7d_created_at ON \x7b\x7btable\x7d\x7d(created_at);"]

/-- The package file of a JavaScript project. -/
def package : String := Text.unlines
  ["\x7b",
   "  \"name\": \"\x7b\x7brepoName\x7d\x7d\",",
   "  \"version\": \"1.0.0\",",
   "  \"description\": \"\x7b\x7btemplate\x7d\x7d project\",",
   "  \"main\": \"src/index.js\",",
   "  \"scripts\": \x7b",
   "    \"test\": \"jest\",",
   "    \"build\": \"webpack\",",
   "    \"start\": \"node src/index.js\"",
   "  \x7d,",
   "  \"dependencies\": \x7b",
   "    \"express\": \"^4.18.0\",",
   "    \"lodash\": \"^4.17.21\"",
   "  \x7d,",
   "  \"devDependencies\": \x7b",
   "    \"jest\": \"^29.0.0\",",
   "    \"webpack\": \"^5.75.0\"",
   "  \x7d",
   "\x7d"]

/-- The project file of a Java application. -/
def pom : String := Text.unlines
  ["<?xml version=\"1.0\" encoding=\"UTF-8\"?>",
   "<project xmlns=\"http://maven.apache.org/POM/4.0.0\">",
   "    <modelVersion>4.0.0</modelVersion>",
   "    <groupId>com.example</groupId>",
   "    <artifactId>\x7b\x7brepoName\x7d\x7d</artifactId>",
   "    <version>1.0.0</version>",
   "    <dependencies>",
   "        <dependency>",
   "            <groupId>org.springframework.boot</groupId>",
   "            <artifactId>spring-boot-starter-web</artifactId>",
   "            <version>3.0.0</version>",
   "        </dependency>",
   "    </dependencies>",
   "</project>"]

/-- The dependencies of a Python project. -/
def requirements : String := Text.unlines
  ["requests>=2.28.0",
   "pydantic>=1.10.0",
   "pytest>=7.2.0",
   "black>=22.10.0",
   "flake8>=5.0.0"]

/-- The package script of a Python project. -/
def setup : String := Text.unlines
  ["from setuptools import setup, find_packages",
   "",
   "setup(",
   "    name=\"\x7b\x7brepoName\x7d\x7d\",",
   "    version=\"1.0.0\",",
   "    description=\"\x7b\x7btemplate\x7d\x7d project\",",
   "    packages=find_packages(),",
   "    install_requires=[",
   "        \"requests>=2.28.0\",",
   "        \"pydantic>=1.10.0\",",
   "    ],",
   "    python_requires=\">=3.8\",",
   ")"]

/-- The bundled templates by file name. -/
def bundled : List (String × String) :=
  [("App.csproj.tmpl", csproj),
   ("Cargo.toml.tmpl", cargo),
   ("Dockerfile.node.tmpl", dockerfileNode),
   ("Dockerfile.python.tmpl", dockerfilePython),
   ("Gemfile.tmpl", gemfile),
   ("LICENSE.tmpl", license),
   ("README.md.tmpl", readme),
   ("ci.yml.tmpl", ci),
   ("composer.json.tmpl", composer),
   ("docker-compose.yml.tmpl", compose),
   ("gitignore.tmpl", gitignore),
   ("go.mod.tmpl", goModule),
   ("k8s-deployment.yaml.tmpl", deployment),
   ("k8s-service.yaml.tmpl", service),
   ("main.tf.tmpl", terraform),
   ("migration.sql.tmpl", migration),
   ("package.json.tmpl", package),
   ("pom.xml.tmpl", pom),
   ("requirements.txt.tmpl", requirements),
   ("setup.py.tmpl", setup)]

end CorpusForge.Template
